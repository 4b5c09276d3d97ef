import Fancon.Controller.Reload

/-! # `SetControllerConfig` and `GetControllerConfig`

A request to set the config changes the settings in memory and reloads, and the reload sets them
again from the config file, which the request has not written. What the request asked for is in
effect afterwards exactly when the file already says so (`setControllerConfig_iff`).
-/
set_option autoImplicit false
set_option maxHeartbeats 250000
set_option maxRecDepth 120000

namespace Fancon

open Controller

/-! ## The requests -/

/-- `Service::GetControllerConfig`. -/
def getControllerConfig (c : Controller) : ControllerConfig := c.settings.save

/-- `Service::SetControllerConfig`. -/
def setControllerConfig (drv : Driver) (env : Env) (parse : Text → Bool × ControllerMsg)
    (enumerated : Devices) (file : Option Text) (config : ControllerConfig) (c : Controller) :
    Option Controller :=
  ({ c with settings := c.settings.load config } : Controller).reload drv env parse enumerated file

/-- The config section of the file says what the request does; it may leave out the update
interval. -/
structure SaysTheSame (file config : ControllerConfig) : Prop where
  dynamic : file.dynamic = config.dynamic
  smoothingIntervals : file.smoothingIntervals = config.smoothingIntervals
  topStickinessIntervals : file.topStickinessIntervals = config.topStickinessIntervals
  tempAveragingIntervals : file.tempAveragingIntervals = config.tempAveragingIntervals
  updateInterval : file.updateInterval = config.updateInterval ∨ file.updateInterval = 0

/-! ## Settings that are loaded twice -/

theorem Settings.save_load_load (s : Settings) {config : ControllerConfig}
    (h : 0 < config.updateInterval) (file : ControllerConfig) :
    ((s.load config).load file).save = config ↔ SaysTheSame file config := by
  obtain ⟨interval, dynamic, smoothing, stickiness, averaging⟩ := config
  constructor
  · intro heq
    obtain ⟨hinterval, hdynamic, hsmoothing, hstickiness, haveraging⟩ :=
      ControllerConfig.mk.inj heq
    refine ⟨hdynamic, hsmoothing, hstickiness, haveraging, ?_⟩
    have hinterval : (if 0 < file.updateInterval then file.updateInterval
        else (s.load _).updateInterval) = interval := hinterval
    split_ifs at hinterval with hfile
    · exact Or.inl hinterval
    · exact Or.inr (Fin.le_zero_iff.mp (not_lt.mp hfile))
  · rintro ⟨hdynamic, hsmoothing, hstickiness, haveraging, hinterval⟩
    have hloaded : (if 0 < file.updateInterval then file.updateInterval
        else (s.load ⟨interval, dynamic, smoothing, stickiness, averaging⟩).updateInterval) =
        interval := by
      rcases hinterval with hinterval | hinterval
      · rw [hinterval, if_pos h]
      · rw [hinterval, if_neg (lt_irrefl _)]
        exact if_pos h
    exact ControllerConfig.mk.injEq .. ▸ ⟨hloaded, hdynamic, hsmoothing, hstickiness, haveraging⟩

/-! ## The request -/

/-- **A completed request to set the config is in effect exactly when the config file already says
the same.** -/
theorem setControllerConfig_iff (drv : Driver) (env : Env) (parse : Text → Bool × ControllerMsg)
    (enumerated : Devices) (text : Text) (config : ControllerConfig) (c c' : Controller)
    (hinterval : 0 < config.updateInterval)
    (h : setControllerConfig drv env parse enumerated (some text) config c = some c') :
    getControllerConfig c' = config ↔ SaysTheSame (parse text).2.config config := by
  rw [getControllerConfig, settings_of_reload h]
  exact c.settings.save_load_load hinterval _

/-! ## A request that turns off dynamic control -/

def staticConfig : ControllerConfig where
  updateInterval := 1000

def dynamicText : Text := "config \x7b update_interval: 500 dynamic: true \x7d".toList

def dynamicConfig : ControllerMsg := { config := { updateInterval := 500, dynamic := true } }

def parseDynamic : Text → Bool × ControllerMsg := parserOf [(dynamicText, true, dynamicConfig)]

theorem parseDynamic_dynamic : parseDynamic dynamicText = (true, dynamicConfig) :=
  parserOf_self _ _ _

def staticRequest : Option Controller :=
  setControllerConfig willingDriver readyEnv parseDynamic (Devices.enumerate {})
    (some dynamicText) staticConfig {}

theorem staticRequest_returns : ∃ c', staticRequest = some c' :=
  reload_returns willingDriver readyEnv parseDynamic {} dynamicText
    (wellFormed_start.withSettings (Settings.load {} staticConfig)) (fun _ h => by cases h)
    (fun _ h => by cases h) fun _ h => by cases h

theorem setControllerConfig_static : ∃ c', staticRequest = some c' ∧
    (getControllerConfig c' = staticConfig ↔
      SaysTheSame (parseDynamic dynamicText).2.config staticConfig) := by
  obtain ⟨c', h⟩ := staticRequest_returns
  exact ⟨c', h, setControllerConfig_iff willingDriver readyEnv parseDynamic (Devices.enumerate {})
    dynamicText staticConfig {} c' (by decide) h⟩

/-- The file still asks for dynamic control, and the reload obeys it. -/
theorem setControllerConfig_undone :
    ¬ ∀ (drv : Driver) (env : Env) (parse : Text → Bool × ControllerMsg) (found : Found)
      (text : Text) (config : ControllerConfig) (c c' : Controller),
      (parse text).1 = true → 0 < config.updateInterval →
      setControllerConfig drv env parse (Devices.enumerate found) (some text) config c = some c' →
      getControllerConfig c' = config := by
  intro h
  obtain ⟨c', hc'⟩ := staticRequest_returns
  have hget := h willingDriver readyEnv parseDynamic {} dynamicText staticConfig {} c'
    (congrArg Prod.fst parseDynamic_dynamic) (by decide) hc'
  unfold staticRequest setControllerConfig at hc'
  rw [getControllerConfig, settings_of_reload hc', parseDynamic_dynamic] at hget
  exact absurd (congrArg ControllerConfig.dynamic hget) (by decide)

end Fancon
