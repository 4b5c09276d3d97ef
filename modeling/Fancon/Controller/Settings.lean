import Fancon.Types

/-! # The controller settings

The process-wide settings of `Controller.cpp` and the message that carries them. `Settings.load`
is `Controller::from`, which accepts every message and only keeps the update interval when the
message has none; `Settings.save` is `Controller::to`.
-/
set_option autoImplicit false
set_option maxHeartbeats 250000
set_option maxRecDepth 120000

namespace Fancon

/-- `fc_pb::ControllerConfig`; an unset field is zero. -/
structure ControllerConfig where
  updateInterval : U32 := 0
  dynamic : Bool := false
  smoothingIntervals : U32 := 0
  topStickinessIntervals : U32 := 0
  tempAveragingIntervals : U32 := 0
deriving DecidableEq

/-- `fc::update_interval` and its siblings. -/
structure Settings where
  updateInterval : U32 := 500
  dynamic : Bool := true
  smoothingIntervals : U32 := 4
  topStickinessIntervals : U32 := 4
  tempAveragingIntervals : U32 := 8
deriving DecidableEq

/-- `Controller::from`. -/
def Settings.load (s : Settings) (c : ControllerConfig) : Settings where
  dynamic := c.dynamic
  smoothingIntervals := c.smoothingIntervals
  topStickinessIntervals := c.topStickinessIntervals
  tempAveragingIntervals := c.tempAveragingIntervals
  updateInterval := if 0 < c.updateInterval then c.updateInterval else s.updateInterval

def Settings.save (s : Settings) : ControllerConfig where
  updateInterval := s.updateInterval
  dynamic := s.dynamic
  smoothingIntervals := s.smoothingIntervals
  topStickinessIntervals := s.topStickinessIntervals
  tempAveragingIntervals := s.tempAveragingIntervals

@[simp] theorem Settings.load_smoothingIntervals (s : Settings) (c : ControllerConfig) :
    (s.load c).smoothingIntervals = c.smoothingIntervals := rfl

@[simp] theorem Settings.load_tempAveragingIntervals (s : Settings) (c : ControllerConfig) :
    (s.load c).tempAveragingIntervals = c.tempAveragingIntervals := rfl

end Fancon
