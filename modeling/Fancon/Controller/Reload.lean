import Fancon.Controller.System

/-! # A config that cannot be parsed

`read_config` hands on what `ParseFromString` left behind, whatever its result. What `reload` then
does after the enumerated devices were merged changes nothing exactly when that partial message
repeats the settings, repeats every device it matches and leaves out no device that was not
enumerated (`changes_nothing_iff`).
-/
set_option autoImplicit false
set_option maxHeartbeats 250000
set_option maxRecDepth 120000

namespace Fancon

open KeyedMerge Controller

section

variable {D M : Type}

/-- A message that is there once the enumerated devices were merged: it was there before, or it is
that of the first enumerated device with its hardware id under an unused label. -/
def Present (save : D → M) (ident : M → String) (m found : UnorderedMap String D) (l : String)
    (w : M) : Prop :=
  view save m l = some w ∨ Joins ident (view save m) (messages save found) l w

end

section

variable {D M : Type} {save : D → M} {ident : M → String} {deepEqual : D → D → Bool}
  {m m₁ m₂ n found loaded : UnorderedMap String D}

theorem contains_iff_view {l : String} :
    m.contains l = true ↔ ∃ w, view save m l = some w := by
  rw [UnorderedMap.contains_iff]
  constructor
  · rintro ⟨x, hx⟩
    exact ⟨save x, view_eq_some.mpr ⟨x, hx, rfl⟩⟩
  · rintro ⟨w, hw⟩
    obtain ⟨x, hx, -⟩ := view_eq_some.mp hw
    exact ⟨x, hx⟩

theorem present_iff {deepCmp : Bool}
    (hfound : Steps ident (ReplacesOnMatch false deepCmp) (view save m) (messages save found)
      (view save m₁)) {l : String} {w : M} :
    view save m₁ l = some w ↔ Present save ident m found l w :=
  hfound.joined_iff (fun _ _ h => by cases h.1) (nodup_keys_messages found)

theorem mem_messages {e : String × M} (he : e ∈ messages save m) : m.contains e.1 = true := by
  obtain ⟨p, hp, rfl⟩ := List.mem_map.mp he
  exact UnorderedMap.contains_iff.mpr ⟨p.2, UnorderedMap.mem_entries.mp hp⟩

theorem contains_of_merge {replace : M → M → Prop}
    (hfound : Steps ident replace (view save m) (messages save found) (view save m₁)) {l : String}
    (hl : m₁.contains l = true) : m.contains l = true ∨ found.contains l = true := by
  obtain ⟨w, hw⟩ : ∃ w, view save m₁ l = some w := contains_iff_view.mp hl
  rcases hfound.key_mem hw with hx | ⟨e, he, rfl⟩
  · exact Or.inl (contains_iff_view.mpr hx)
  · exact Or.inr (mem_messages he)

theorem contains_of_merges {replace replace' : M → M → Prop}
    (hfound : Steps ident replace (view save m) (messages save found) (view save m₁))
    (hloaded : Steps ident replace' (view save m₁) (messages save loaded) (view save m₂))
    {l : String} (hl : m₂.contains l = true) :
    m.contains l = true ∨ found.contains l = true ∨ loaded.contains l = true := by
  rcases contains_of_merge hloaded hl with hl | hl
  · exact (contains_of_merge hfound hl).imp_right Or.inl
  · exact Or.inr (Or.inr hl)

end

/-! ## `remove_devices_not_in` -/

variable {drv : Driver} {c c' : Controller} {ds : List Devices}

theorem removeDevicesNotIn_stays (drv : Driver)
    (hfans : ∀ l, c.devices.fans.contains l = true → (ds.any fun d => d.fans.contains l) = true)
    (hsensors : ∀ l, c.devices.sensors.contains l = true →
      (ds.any fun d => d.sensors.contains l) = true) : removeDevicesNotIn drv ds c = some c :=
  removeDevicesNotIn_eq_some.mpr ⟨hfans, hsensors, rfl⟩

variable {env : Env} {parse : Text → Bool × ControllerMsg} {enumerated : Devices} {text : Text}

theorem listed_pair {d d' : Devices} {contains : Devices → String → Bool} {l : String} :
    ([d, d'].any fun x => contains x l) = true ↔ contains d l = true ∨ contains d' l = true := by
  simp

theorem reload_cases (h : c.reload drv env parse enumerated (some text) = some c') :
    ∃ c₁, c.merge drv enumerated false false = some c₁ ∧
      ({ c₁ with settings := c₁.settings.load (parse text).2.config } : Controller).merge drv
        (Devices.load env (parse text).2.devices) true true = some c' ∧
      removeDevicesNotIn drv [enumerated, Devices.load env (parse text).2.devices] c' =
        some c' := by
  obtain ⟨c₁, h₁, ⟨hmsg, -⟩ | ⟨msg, hmsg, h₂, h⟩⟩ := reload_parts h
  · cases hmsg
  · obtain rfl := Option.some.inj hmsg
    exact ⟨c₁, h₁, h₂, h⟩

theorem reload_eq_some {c₁ c₂ : Controller} (h₁ : c.merge drv enumerated false false = some c₁)
    (h₂ : ({ c₁ with settings := c₁.settings.load (parse text).2.config } : Controller).merge drv
      (Devices.load env (parse text).2.devices) true true = some c₂)
    (h₃ : removeDevicesNotIn drv [enumerated, Devices.load env (parse text).2.devices] c₂ =
      some c') : c.reload drv env parse enumerated (some text) = some c' := by
  unfold reload reloadFrom
  rw [h₁, Option.bind_some]
  show (({ c₁ with settings := _ } : Controller).merge drv _ true true).bind _ = _
  rw [h₂, Option.bind_some]
  exact h₃

/-- With no test running both merges return. -/
theorem merges_return (drv : Driver) (config : ControllerConfig) {confDevs : Devices}
    (hwf : WellFormed c) (h : Untested c) (hfresh : enumerated.Fresh)
    (hdistinct : DistinctHwIds Fan.hwId confDevs.fans) :
    ∃ c₁ c₂, c.merge drv enumerated false false = some c₁ ∧
      ({ c₁ with settings := c₁.settings.load config } : Controller).merge drv confDevs true true =
        some c₂ := by
  obtain ⟨c₁, h₁⟩ := merge_returns_of_keep drv c enumerated false
  have hwf₁ := (hwf.merge hfresh h₁).withSettings (c₁.settings.load config)
  have hc₁ : Untested { c₁ with settings := c₁.settings.load config } :=
    fun l hl => h l ((tests_of_merge h₁ l).mp hl)
  obtain ⟨c₂, h₂⟩ := (@merge_returns drv _ _ true true hwf₁.fanHwIds hdistinct).mpr
    fun _ _ _ l _ _ _ _ => hc₁ l
  exact ⟨c₁, c₂, h₁, h₂⟩

/-- A reload returns if no test is running and every label in memory is enumerated or loaded. -/
theorem reload_returns (drv : Driver) (env : Env) (parse : Text → Bool × ControllerMsg)
    (found : Found) (text : Text) (hwf : WellFormed c) (h : Untested c)
    (hfans : ∀ l, c.devices.fans.contains l = true →
      (Devices.enumerate found).fans.contains l = true ∨
        (Devices.load env (parse text).2.devices).fans.contains l = true)
    (hsensors : ∀ l, c.devices.sensors.contains l = true →
      (Devices.enumerate found).sensors.contains l = true ∨
        (Devices.load env (parse text).2.devices).sensors.contains l = true) :
    ∃ c', c.reload drv env parse (Devices.enumerate found) (some text) = some c' := by
  obtain ⟨c₁, c₂, h₁, h₂⟩ := merges_return drv (parse text).2.config hwf h
    (Devices.fresh_enumerate found) (distinct_load_fans env (parse text).2.devices)
  obtain ⟨-, hfound, hfound'⟩ := merge_steps h₁
  obtain ⟨-, hloaded, hloaded'⟩ := merge_steps h₂
  refine ⟨c₂, reload_eq_some h₁ h₂ (removeDevicesNotIn_stays drv (fun l hl => ?_) fun l hl => ?_)⟩
  · exact listed_pair.mpr ((contains_of_merges hfound hloaded hl).elim (hfans l) id)
  · exact listed_pair.mpr ((contains_of_merges hfound' hloaded' hl).elim (hsensors l) id)

/-- The start of a controller returns. -/
theorem reload_returns_start (drv : Driver) (env : Env) (parse : Text → Bool × ControllerMsg)
    (found : Found) (text : Text) :
    ∃ c', ({} : Controller).reload drv env parse (Devices.enumerate found) (some text) = some c' :=
  reload_returns drv env parse found text wellFormed_start (fun _ h => by cases h)
    (fun _ h => by cases h) fun _ h => by cases h

theorem settings_of_reload (h : c.reload drv env parse enumerated (some text) = some c') :
    c'.settings = c.settings.load (parse text).2.config := by
  obtain ⟨c₁, h₁, h₂, -⟩ := reload_cases h
  rw [(merge_steps h₂).1, (merge_steps h₁).1]

/-- A parser that knows the texts of a table, and makes nothing of any other. -/
def parserOf (table : List (Text × Bool × ControllerMsg)) (text : Text) : Bool × ControllerMsg :=
  (table.lookup text).getD (false, {})

theorem parserOf_self (text : Text) (r : Bool × ControllerMsg)
    (table : List (Text × Bool × ControllerMsg)) : parserOf ((text, r) :: table) text = r := by
  rw [parserOf, List.lookup_cons_self, Option.getD_some]

theorem parserOf_of_ne {text other : Text} (h : text ≠ other) (r : Bool × ControllerMsg)
    (table : List (Text × Bool × ControllerMsg)) :
    parserOf ((other, r) :: table) text = parserOf table text := by
  rw [parserOf, List.lookup_cons, beq_eq_false_iff_ne.mpr h]
  rfl

def oneFan : Found where
  fans := [⟨"hwmon0/fan1", .sysfs ⟨"/sys/pwm1", "/sys/fan1_input", "/sys/pwm1_enable", 2⟩, false⟩]

/-- An entry that calls the fan of `oneFan` by another label. -/
def renamedMsg : FanMsg where
  label := "cpu"
  pwmPath := "/sys/pwm1"
  rpmPath := "/sys/fan1_input"
  enablePath := "/sys/pwm1_enable"
  driverFlag := 2

def renamedText : Text :=
  ("devices \x7b fan \x7b label: \"cpu\" driver_flag: 2 pwm_path: \"/sys/pwm1\" " ++
    "rpm_path: \"/sys/fan1_input\" enable_path: \"/sys/pwm1_enable\" \x7d").toList ++
  " \x7d".toList

/-- The text of the entry and one brace too many. -/
def garbledText : Text := renamedText ++ " \x7d".toList

def renamedConfig : ControllerMsg := { devices := ⟨[renamedMsg], []⟩ }

/-- What is in front of the brace that is too many is parsed; the empty text lists no fan. -/
def parseRenamed : Text → Bool × ControllerMsg := parserOf
  [(renamedText, true, renamedConfig), (garbledText, false, renamedConfig), ([], true, {})]

theorem parseRenamed_renamed : parseRenamed renamedText = (true, renamedConfig) :=
  parserOf_self _ _ _

def renamed : Controller :=
  (({} : Controller).reloadFrom willingDriver (Devices.enumerate oneFan)
    (some (renamedConfig.config, Devices.load readyEnv renamedConfig.devices))).getD {}

theorem reload_renamed : ({} : Controller).reload willingDriver readyEnv parseRenamed
    (Devices.enumerate oneFan) (some renamedText) = some renamed := by
  obtain ⟨c, hc⟩ := reload_returns_start willingDriver readyEnv parseRenamed oneFan renamedText
  rw [hc, renamed]
  rw [reload, readConfig, Option.map_some, parseRenamed_renamed] at hc
  exact congrArg (fun c => some (Option.getD c {})) hc.symm

theorem renamed_reachable :
    Transition.Reachable (system parseRenamed fun _ => True) renamed :=
  .step (a := .reload readyEnv oneFan (some renamedText)) (.init rfl) trivial
    ⟨willingDriver, trivial, reload_renamed⟩

theorem renamed_untested : Untested renamed := untested_of_keys (by decide +kernel)

end Fancon
