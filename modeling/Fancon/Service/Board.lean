import Fancon.Controller.DellFans
import Fancon.Service.Requests

/-! # The board of statuses

What the service is for, seen from its clients: a board that shows the status of each fan, and what
each request does to it. In every run the requests that do not replace devices are taken when the
board says so, and leave on it what the board says. They are answered at once, but for one that
starts a test: until that ends, whatever else happens, the board shows the test, and it no longer
does when the request is answered (`requests_follow_board`).
-/
set_option autoImplicit false
set_option maxHeartbeats 250000
set_option maxRecDepth 120000

namespace Fancon

namespace Service

/-! ## The board -/

/-- The statuses, and what the requests depend on: which fans are Dell fans, which can be enabled
and which can be tested, if forced or if not. -/
structure Board where
  status : String → FanStatus
  dell : String → Bool
  willing : String → Bool
  testable : Bool → String → Bool

namespace Board

/-- `enable` of the first fan enables the second: it is the same, or both are Dell fans. -/
def enables (b : Board) (l k : String) : Bool :=
  decide (b.status k = .disabled) && b.willing k &&
    (decide (k = l) || b.dell k && b.dell l && decide (b.status l = .disabled) && b.willing l)

/-- `disable` of the first fan disables the second. -/
def disables (b : Board) (l k : String) : Bool :=
  decide (k = l) || b.dell k && b.dell l && decide (b.status l ≠ .disabled)

/-- The status of a fan after a request. -/
def after (b : Board) (k : String) : Request → FanStatus
  | .enable l => if b.enables l k then .enabled else b.status k
  | .enableAll => if b.status k = .disabled ∧ b.willing k then .enabled else b.status k
  | .disable l => if b.disables l k then .disabled else b.status k
  | .disableAll => .disabled
  | .test l forced => if k = l ∧ b.testable forced l then .testing else b.status k
  | _ => b.status k

/-- A request that has to join a test that is running is blocked for ever. -/
def Answers (b : Board) : Request → Prop
  | .disable l => ∀ k, b.disables l k = true → b.status k ≠ .testing
  | .disableAll => ∀ k, b.status k ≠ .testing
  | .test l forced => b.testable forced l = true → b.status l ≠ .testing
  | _ => True

/-- The request starts a test of the fan. -/
def Starts (b : Board) (l : String) : Request → Prop
  | .test k forced => k = l ∧ b.testable forced l = true
  | _ => False

end Board

/-- A request that may put other devices in the place of those that are there. -/
def replacesDevices : Request → Bool
  | .setDevices .. | .setControllerConfig .. | .reload .. | .nvInit .. => true
  | _ => false

def board (drv : Driver) (c : Controller) : Board where
  status := c.status
  dell l := (c.fan? l).any fun f => decide (f.type = .dell)
  willing l := (c.fan? l).any fun f => (f.tryEnable drv).1 && f.isConfigured
  testable forced l := (c.fan? l).any fun f => !f.ignore && (!f.tested || forced)

variable {drv : Driver} {parse : Text → Bool × ControllerMsg} {read : Readouts}
  {c c' : Controller}

/-! ## `enable` -/

/-- What `enable` looks at and changes. -/
def see (c : Controller) (l : String) : Option Fan × Option Bool := (c.fan? l, c.testing? l)

def enableTurn (drv : Driver) : Option Fan × Option Bool → Option Fan × Option Bool
  | (some f, none) => (some (f.tryEnable drv).2,
      if (f.tryEnable drv).1 && f.isConfigured then some false else none)
  | seen => seen

theorem isConfigured_tryEnable (drv : Driver) (f : Fan) :
    (f.tryEnable drv).2.isConfigured = f.isConfigured :=
  Fan.isConfigured_of_uncontrolled (Fan.uncontrolled_tryEnable drv f)

theorem see_enableAlone (hc : Controller.Labelled c) (l k : String) :
    see (c.enableAlone drv l) k = if k = l then enableTurn drv (see c l) else see c k := by
  unfold Controller.enableAlone Controller.enableWith
  cases hf : c.fan? l with
  | none =>
    have hturn : enableTurn drv (see c l) = see c l := by
      rw [see, hf]
      rfl
    rw [hturn]
    split_ifs with hk
    · rw [hk]
    · rfl
  | some f =>
    obtain rfl := hc l f hf
    simp only
    cases ht : c.testing? f.label with
    | some b =>
      have hcontains : c.tasks.contains f.label = true := by
        refine (Bool.not_eq_false _).mp fun h => ?_
        cases (Controller.testing?_eq_none.mpr h).symm.trans ht
      have hturn : enableTurn drv (see c f.label) = see c f.label := by
        rw [see, hf, ht]
        rfl
      rw [if_pos hcontains, hturn]
      split_ifs with hk
      · rw [hk]
      · rfl
    | none =>
      have hcontains : ¬ c.tasks.contains f.label = true := by
        rw [Controller.testing?_eq_none.mp ht]
        exact Bool.false_ne_true
      have hset : ∀ t, (c.setFan f.label (f.tryEnable drv).2).testing? t = c.testing? t :=
        fun _ => rfl
      rw [if_neg hcontains, isConfigured_tryEnable]
      cases hgo : (f.tryEnable drv).1 && f.isConfigured with
      | false =>
        have hskip : (!(f.tryEnable drv).1 || !f.isConfigured) = true := by
          rw [← Bool.not_and, hgo]
          rfl
        rw [if_pos hskip]
        unfold see
        rw [Controller.fan?_setFan, hset, hf, ht]
        split_ifs with hk
        · simp only [enableTurn, hgo, hk, ht, Bool.false_eq_true, if_false]
        · rfl
      | true =>
        have hskip : ¬ (!(f.tryEnable drv).1 || !f.isConfigured) = true := by
          rw [← Bool.not_and, hgo]
          exact Bool.false_ne_true
        rw [if_neg hskip]
        simp only [ite_self]
        unfold see
        rw [Controller.testing?_emplace, Controller.fan?_setTasks, Controller.fan?_setFan, hset,
          hset, hf, ht]
        split_ifs with hk
        · simp only [enableTurn, hgo, if_true, Option.getD_none]
        · rfl

theorem enableTurn_of_missing {seen : Option Fan × Option Bool} (h : seen.1 = none) :
    enableTurn drv seen = seen := by
  obtain ⟨f, t⟩ := seen
  obtain rfl := h
  rfl

theorem labelled_enableAlone (hc : Controller.Labelled c) (l : String) :
    Controller.Labelled (c.enableAlone drv l) := hc.controls (Controller.controls_enableAlone c l)

theorem see_missing {l : String} (h : l ∉ c.devices.fans.keys) : (see c l).1 = none := by
  refine Option.eq_none_iff_forall_ne_some.mpr fun f hf => h ?_
  exact UnorderedMap.mem_keys_iff.mpr ⟨f, hf⟩

theorem see_enableAll (hc : Controller.Labelled c) (k : String) :
    see (c.enableAll drv) k = enableTurn drv (see c k) := by
  have hloop : see (c.enableAll drv) k =
      if k ∈ c.devices.fans.keys then enableTurn drv (see c k) else see c k :=
    Loop.foldl_pointwise (P := Controller.Labelled) (fun s l hs => labelled_enableAlone hs l)
      (fun s l k hs => see_enableAlone hs l k) hc c.devices.fans.nodupKeys k
  refine hloop.trans (ite_eq_left_iff.mpr fun hk => ?_)
  exact (enableTurn_of_missing (see_missing hk)).symm

def isDell (seen : Option Fan × Option Bool) : Bool := seen.1.any fun f => decide (f.type = .dell)

def dellTurn (drv : Driver) (l k : String) (seen : Option Fan × Option Bool) :
    Option Fan × Option Bool :=
  if isDell seen = true ∧ k ≠ l then enableTurn drv seen else seen

theorem see_enableDellFans (hc : Controller.Labelled c) (l k : String) :
    see (c.enableDellFans drv (some l)) k = dellTurn drv l k (see c k) := by
  have hturn : ∀ (s : Controller) (i j : String), Controller.Labelled s →
      see (Controller.enableDellFan drv (some l) s i) j =
        if j = i then dellTurn drv l i (see s i) else see s j := by
    intro s i j hs
    unfold Controller.enableDellFan dellTurn
    have hexcept : some l ≠ some i ↔ i ≠ l := by
      rw [ne_eq, Option.some_inj, eq_comm]
    simp only [hexcept]
    by_cases hdell : isDell (see s i) = true ∧ i ≠ l
    · rw [if_pos hdell]
      have hdell' : (s.fan? i).any (fun f => decide (f.type = .dell)) = true ∧ i ≠ l := hdell
      rw [if_pos hdell']
      exact see_enableAlone hs i j
    · rw [if_neg hdell]
      have hdell' : ¬ ((s.fan? i).any (fun f => decide (f.type = .dell)) = true ∧ i ≠ l) := hdell
      rw [if_neg hdell']
      split_ifs with hj
      · rw [hj]
      · rfl
  have hkeeps : ∀ (s : Controller) (i : String), Controller.Labelled s →
      Controller.Labelled (Controller.enableDellFan drv (some l) s i) := by
    intro s i hs
    unfold Controller.enableDellFan
    split_ifs
    · exact labelled_enableAlone hs i
    · exact hs
  have hloop := Loop.foldl_pointwise hkeeps hturn hc c.devices.fans.nodupKeys k
  refine hloop.trans (ite_eq_left_iff.mpr fun hk => ?_)
  have hnot : ¬ (isDell (see c k) = true ∧ k ≠ l) := by
    rw [isDell, see_missing hk]
    exact fun h => Bool.false_ne_true h.1
  exact (if_neg hnot).symm

/-! ## The statuses after `enable` -/

def seenStatus (seen : Option Fan × Option Bool) : FanStatus :=
  match seen.2 with
  | none => .disabled
  | some false => .enabled
  | some true => .testing

def isWilling (drv : Driver) (seen : Option Fan × Option Bool) : Bool :=
  seen.1.any fun f => (f.tryEnable drv).1 && f.isConfigured

theorem status_eq_seen (c : Controller) (l : String) : c.status l = seenStatus (see c l) :=
  c.status_eq l

theorem seenStatus_enableTurn (drv : Driver) (seen : Option Fan × Option Bool) :
    seenStatus (enableTurn drv seen) =
      if seenStatus seen = .disabled ∧ isWilling drv seen = true then .enabled
      else seenStatus seen := by
  obtain ⟨f, t⟩ := seen
  cases f with
  | none => simp [enableTurn, isWilling]
  | some f =>
    rcases t with _ | _ | _
    · simp only [enableTurn, seenStatus, isWilling, Option.any_some, true_and]
      cases (f.tryEnable drv).1 && f.isConfigured <;> rfl
    · rfl
    · rfl

theorem status_enableAll (hc : Controller.Labelled c) (k : String) :
    (c.enableAll drv).status k = (board drv c).after k .enableAll := by
  rw [status_eq_seen, see_enableAll hc, seenStatus_enableTurn, ← status_eq_seen]
  rfl

theorem enables_self (b : Board) (l : String) :
    b.enables l l = (decide (b.status l = .disabled) && b.willing l) := by
  simp [Board.enables]

theorem enables_of_not (b : Board) {l k : String}
    (h : ¬ (b.status l = .disabled ∧ b.willing l = true)) : b.enables l k = false := by
  by_cases hk : k = l
  · subst hk
    rw [enables_self]
    simpa using h
  · have hl : (decide (b.status l = .disabled) && b.willing l) = false := by simpa using h
    rw [Board.enables, Bool.and_assoc (b.dell k && b.dell l), hl]
    simp [hk]

theorem enables_other (b : Board) {l k : String} (hk : k ≠ l) (hl : b.status l = .disabled)
    (hwilling : b.willing l = true) : b.enables l k =
      (decide (b.status k = .disabled) && b.willing k && (b.dell k && b.dell l)) := by
  simp [Board.enables, hk, hl, hwilling]

/-- `enable` of a fan without a task that can be enabled. -/
theorem enable_of_willing (hc : Controller.Labelled c) {l : String} {f : Fan}
    (hf : c.fan? l = some f) (ht : c.testing? l = none)
    (hgo : ((f.tryEnable drv).1 && f.isConfigured) = true) : c.enable drv l =
      let d := c.setFan l (f.tryEnable drv).2
      let d := if f.type = .dell then d.enableDellFans drv (some l) else d
      d.setTasks (d.tasks.emplace l ⟨false⟩) := by
  obtain rfl := hc l f hf
  have hcontains : ¬ c.tasks.contains f.label = true := by
    rw [Controller.testing?_eq_none.mp ht]
    exact Bool.false_ne_true
  have hskip : ¬ (!(f.tryEnable drv).1 || !f.isConfigured) = true := by
    rw [← Bool.not_and, hgo]
    exact Bool.false_ne_true
  unfold Controller.enable Controller.enableWith
  simp only [hf, if_neg hcontains, isConfigured_tryEnable, if_neg hskip]

/-- `enable` of any other fan starts no task. -/
theorem tasks_enable_of_unwilling (hc : Controller.Labelled c) {l : String}
    (h : ¬ (c.status l = .disabled ∧ isWilling drv (see c l) = true)) :
    (c.enable drv l).tasks = c.tasks := by
  unfold Controller.enable Controller.enableWith
  cases hf : c.fan? l with
  | none => rfl
  | some f =>
    obtain rfl := hc l f hf
    simp only
    by_cases hcontains : c.tasks.contains f.label = true
    · rw [if_pos hcontains]
    · have ht : c.testing? f.label = none :=
        Controller.testing?_eq_none.mpr (Bool.eq_false_iff.mpr hcontains)
      have hgo : ¬ ((f.tryEnable drv).1 && f.isConfigured) = true := by
        intro hgo
        refine h ⟨Controller.status_eq_disabled.mpr ht, ?_⟩
        rw [isWilling, see, hf]
        exact hgo
      have hskip : (!(f.tryEnable drv).1 || !f.isConfigured) = true := by
        rw [← Bool.not_and, Bool.not_eq_true _ |>.mp hgo]
        rfl
      rw [if_neg hcontains, isConfigured_tryEnable, if_pos hskip]
      rfl

theorem see_setFan (c : Controller) (l k : String) (f : Fan) :
    see (c.setFan l f) k = if k = l then (some f, c.testing? l) else see c k := by
  unfold see
  rw [Controller.fan?_setFan]
  split_ifs with hk
  · rw [hk]
    rfl
  · rfl

variable (drv) in
/-- What `enable` leaves of the other fans before the task is started. -/
theorem see_before_start (hc : Controller.Labelled c) {l : String} {f g : Fan}
    (hf : c.fan? l = some f) (hg : g.uncontrolled = f.uncontrolled) (k : String) :
    see (if f.type = .dell then (c.setFan l g).enableDellFans drv (some l) else c.setFan l g) k =
      if k = l then (some g, c.testing? l)
      else if f.type = .dell then dellTurn drv l k (see c k) else see c k := by
  have hlabelled := hc.controls (Controller.controls_setFan hf hg)
  by_cases hdell : f.type = .dell
  · rw [if_pos hdell, if_pos hdell, see_enableDellFans hlabelled, see_setFan]
    split_ifs with hk
    · exact if_neg fun h => h.2 hk
    · rfl
  · rw [if_neg hdell, if_neg hdell, see_setFan]

theorem seenStatus_dellTurn (drv : Driver) {l k : String} (hk : k ≠ l)
    (seen : Option Fan × Option Bool) : seenStatus (dellTurn drv l k seen) =
      if seenStatus seen = .disabled ∧ isWilling drv seen = true ∧ isDell seen = true then .enabled
      else seenStatus seen := by
  unfold dellTurn
  by_cases hdell : isDell seen = true
  · rw [if_pos ⟨hdell, hk⟩, seenStatus_enableTurn]
    simp only [hdell, and_true]
  · rw [if_neg fun h => hdell h.1]
    simp only [hdell, and_false, Bool.false_eq_true, if_false]

theorem status_start {d : Controller} {l : String} (h : d.testing? l = none) (k : String) :
    (d.setTasks (d.tasks.emplace l ⟨false⟩)).status k =
      if k = l then .enabled else seenStatus (see d k) := by
  rw [Controller.status_eq, Controller.testing?_emplace, h]
  split_ifs
  · rfl
  · exact (Controller.status_eq d k).symm.trans (status_eq_seen d k)

theorem status_enable (hc : Controller.Labelled c) (l k : String) :
    (c.enable drv l).status k = (board drv c).after k (.enable l) := by
  show _ = if (board drv c).enables l k = true then FanStatus.enabled else c.status k
  by_cases hl : c.status l = .disabled ∧ isWilling drv (see c l) = true
  · obtain ⟨hdisabled, hwilling⟩ := hl
    have ht := Controller.status_eq_disabled.mp hdisabled
    obtain ⟨f, hf, hgo⟩ : ∃ f, c.fan? l = some f ∧
        ((f.tryEnable drv).1 && f.isConfigured) = true := Option.any_eq_true _ _ |>.mp hwilling
    have hsee := see_before_start drv hc hf (Fan.uncontrolled_tryEnable drv f)
    rw [enable_of_willing hc hf ht hgo, status_start]
    · by_cases hk : k = l
      · subst hk
        have henables : (board drv c).enables k k = true := by
          rw [enables_self]
          exact Bool.and_eq_true_iff.mpr ⟨decide_eq_true hdisabled, hwilling⟩
        rw [if_pos rfl, if_pos henables]
      · have hdell : (board drv c).dell l = decide (f.type = .dell) := by
          show (c.fan? l).any _ = _
          rw [hf, Option.any_some]
        have hstatus : (board drv c).status k = seenStatus (see c k) := status_eq_seen c k
        rw [if_neg hk, hsee, if_neg hk, enables_other _ hk hdisabled hwilling, hdell,
          status_eq_seen c k]
        by_cases htype : f.type = .dell
        · rw [if_pos htype, seenStatus_dellTurn drv hk, decide_eq_true htype, Bool.and_true]
          simp only [Bool.and_eq_true, decide_eq_true_eq, and_assoc, hstatus]
          rfl
        · rw [if_neg htype, decide_eq_false htype]
          simp only [Bool.and_false, Bool.false_eq_true, if_false]
    · have hself := hsee l
      rw [if_pos rfl] at hself
      exact (congrArg Prod.snd hself).trans ht
  · rw [enables_of_not (board drv c) hl, if_neg Bool.false_ne_true]
    unfold Controller.status
    rw [tasks_enable_of_unwilling hc hl]

/-! ## The statuses after `disable` -/

variable (drv) in
theorem dell_of_controls {d : Controller} (h : Controller.Controls c d) (k : String) :
    (d.fan? k).any (fun f => decide (f.type = .dell)) = (board drv c).dell k := by
  have hdell : ∀ x : Option Fan, x.any (fun f => decide (f.type = .dell)) =
      (x.map Fan.uncontrolled).any fun f => decide (f.type = .dell) := by
    intro x
    rw [Option.any_map]
    rfl
  rw [hdell, h.fans k, ← hdell]
  rfl

theorem testing?_disableAlone {l : String} (h : c.disableAlone drv l = some c') (k : String) :
    c'.testing? k = if k = l then none else c.testing? k := by
  split_ifs with hk
  · rw [hk]
    exact Controller.testing?_of_none (Controller.stops_disableAlone h).2
  · rw [Controller.testing?, Controller.tasks_disableAlone h hk]
    rfl

theorem testing?_disableDellFans {l : String} {d d' : Controller} (hd : Controller.Controls c d)
    (h : d.disableDellFans drv (some l) = some d') (k : String) :
    d'.testing? k = if (board drv c).dell k = true ∧ k ≠ l then none else d.testing? k := by
  have hkeeps : ∀ s i s', Controller.Controls c s →
      Controller.disableDellFan drv (some l) s i = some s' → Controller.Controls c s' := by
    intro s i s' hs hstep
    unfold Controller.disableDellFan at hstep
    split_ifs at hstep
    · exact hs.trans (Controller.controls_disableAlone hstep)
    · exact Option.some.inj hstep ▸ hs
  have hturn : ∀ s i s' j, Controller.Controls c s →
      Controller.disableDellFan drv (some l) s i = some s' → s'.testing? j =
        if j = i then if (board drv c).dell i = true ∧ i ≠ l then none else s.testing? i
        else s.testing? j := by
    intro s i s' j hs hstep
    have hexcept : some l ≠ some i ↔ i ≠ l := by
      rw [ne_eq, Option.some_inj, eq_comm]
    unfold Controller.disableDellFan at hstep
    simp only [hexcept, dell_of_controls drv hs] at hstep
    split_ifs at hstep with hdell
    · rw [testing?_disableAlone hstep, if_pos hdell]
    · rw [if_neg hdell, ← Option.some.inj hstep]
      split_ifs with hj
      · rw [hj]
      · rfl
  have hloop : d'.testing? k = if k ∈ d.devices.fans.keys then
      if (board drv c).dell k = true ∧ k ≠ l then none else d.testing? k else d.testing? k :=
    Loop.foldlM_pointwise hkeeps hturn hd d.devices.fans.nodupKeys h k
  refine hloop.trans (ite_eq_left_iff.mpr fun hk => ?_)
  have hnot : ¬ ((board drv c).dell k = true ∧ k ≠ l) := by
    rw [← dell_of_controls drv hd, show d.fan? k = none from see_missing hk]
    exact fun h => Bool.false_ne_true h.1
  exact (if_neg hnot).symm

theorem disables_eq (b : Board) (l k : String) : b.disables l k = true ↔
    k = l ∨ (b.dell k = true ∧ k ≠ l) ∧ b.dell l = true ∧ b.status l ≠ .disabled := by
  simp only [Board.disables, Bool.or_eq_true, Bool.and_eq_true, decide_eq_true_eq]
  tauto

theorem testing?_disable {l : String} (h : c.disable drv l = some c') (k : String) :
    c'.testing? k = if (board drv c).disables l k = true then none else c.testing? k := by
  rcases Controller.disableWith_cases h with ⟨hnone, rfl⟩ | ⟨d, hsome, hd, hdevice⟩
  · have ht := Controller.testing?_of_none hnone
    split_ifs with hk
    · rcases (disables_eq _ _ _).mp hk with rfl | ⟨-, -, hne⟩
      · exact ht
      · exact absurd (Controller.status_eq_disabled.mpr ht) hne
    · rfl
  · have herase : ∀ k, d.testing? k = if k = l then none else c.testing? k := by
      intro k
      split_ifs with hk
      · rw [hk]
        exact Controller.testing?_of_none (Controller.eraseTask_untested hd).2
      · rw [Controller.testing?, Controller.tasks_eraseTask hd hk]
        rfl
    have hcontrols := Controller.controls_eraseTask hd
    have hheld : c.status l ≠ .disabled := by
      rw [ne_eq, Controller.status_eq_disabled, Controller.testing?, Option.map_eq_none_iff]
      exact hsome
    have halone : (board drv c).dell l = false → (∀ k, c'.testing? k = d.testing? k) →
        c'.testing? k = if (board drv c).disables l k = true then none else c.testing? k := by
      intro hdell hsame
      have hiff : (board drv c).disables l k = true ↔ k = l := by
        rw [disables_eq, hdell]
        simp
      simp only [hsame, herase, hiff]
    have hdell := dell_of_controls drv hcontrols l
    rcases hdevice with ⟨hmissing, rfl⟩ | ⟨f, hf, hset⟩
    · apply halone
      · rw [← hdell, hmissing]
        rfl
      · exact fun _ => rfl
    · rw [hf, Option.any_some] at hdell
      have hset' : Controller.Controls c (d.setFan l (f.disableControl drv)) :=
        hcontrols.trans (Controller.controls_setFan hf (Fan.uncontrolled_disableControl drv f))
      by_cases htype : f.type = .dell
      · rw [if_pos htype] at hset
        rw [testing?_disableDellFans hset' hset]
        have hiff : (board drv c).disables l k = true ↔
            k = l ∨ (board drv c).dell k = true ∧ k ≠ l := by
          rw [disables_eq, ← hdell, decide_eq_true htype]
          simp [board, hheld]
        have hsame : (d.setFan l (f.disableControl drv)).testing? k = d.testing? k := rfl
        simp only [hiff, hsame, herase]
        by_cases hk : k = l
        · simp [hk]
        · simp [hk]
      · rw [if_neg htype] at hset
        apply halone
        · rw [← hdell, decide_eq_false htype]
        · exact fun _ => hset ▸ rfl

theorem test_answered (hc : Controller.Labelled c) (l : String) (forced : Bool) :
    (∃ c', c.test drv l forced true = some c') ↔ (board drv c).Answers (.test l forced) := by
  show _ ↔ ((c.fan? l).any fun f => !f.ignore && (!f.tested || forced)) = true →
    c.status l ≠ .testing
  unfold Controller.test
  cases hf : c.fan? l with
  | none => simp
  | some f =>
    obtain rfl := hc l f hf
    have hskip : (f.ignore || (f.tested && !forced)) =
        !((some f).any fun f => !f.ignore && (!f.tested || forced)) := by
      simp [Bool.not_and, Bool.not_or]
    simp only [hskip]
    cases (some f).any fun f => !f.ignore && (!f.tested || forced) with
    | false => simp
    | true =>
      rw [ne_eq, Controller.status_eq_testing]
      simp only [Bool.not_true, Bool.false_eq_true, if_false, true_imp_iff]
      by_cases htest : c.testing? f.label = some true
      · rw [if_pos htest]
        exact ⟨fun ⟨_, h⟩ => (nomatch h), fun h => absurd htest h⟩
      · rw [if_neg htest]
        obtain ⟨d, hd⟩ := eraseTask_returns drv htest
        rw [hd]
        exact ⟨fun _ => htest, fun _ => ⟨_, rfl⟩⟩

/-- What becomes of the controller, whether the fan of the request is there or not. -/
def outcome (drv : Driver) (c : Controller) : Request → Option Controller
  | .enable l => some (c.enable drv l)
  | .enableAll => some (c.enableAll drv)
  | .disable l => c.disable drv l
  | .disableAll => c.disableAll drv
  | .test l forced => c.test drv l forced true
  | .recover => some (c.recover drv)
  | _ => some c

theorem untasked_of_missing (h : Sound c) {l : String} (hnone : c.fan? l = none) :
    c.testing? l = none := by
  rcases ht : c.testing? l with _ | _ | _
  · rfl
  · obtain ⟨f, hf, -⟩ := h.tended l ht
    cases hnone.symm.trans hf
  · obtain ⟨f, hf, -⟩ := h.wellFormed.testsKnown l ht
    cases hnone.symm.trans hf

theorem fst_onFan {l : String} {x : Option Controller} {a : Fan → Answer}
    (hmissing : c.fan? l = none → x = some c) :
    (onFan c l fun f => x.map fun c => (c, a f)).map Prod.fst = x := by
  unfold onFan
  cases hf : c.fan? l with
  | none => exact (hmissing hf).symm
  | some f =>
    rw [Option.map_map]
    exact congrFun Option.map_id x

variable (drv parse read) in
theorem fst_handle (h : Sound c) {r : Request} (hr : replacesDevices r = false) :
    (handle drv parse read c r).map Prod.fst = outcome drv c r := by
  have hanswered : ∀ x : Option Controller,
      (x.map fun c => (c, Answer.now {})).map Prod.fst = x := by
    intro x
    rw [Option.map_map]
    exact congrFun Option.map_id x
  cases r with
  | enable l =>
    refine fst_onFan (x := some (c.enable drv l)) fun hnone => congrArg some ?_
    rw [Controller.enable, Controller.enableWith, hnone]
  | disable l =>
    refine fst_onFan fun hnone => ?_
    have hcontains := Controller.testing?_eq_none.mp (untasked_of_missing h hnone)
    rw [Controller.disable, Controller.disableWith, hcontains]
    rfl
  | test l forced =>
    refine fst_onFan fun hnone => ?_
    rw [Controller.test, hnone]
  | getFanStatus l =>
    show (onFan c l _).map Prod.fst = some c
    unfold onFan
    cases c.fan? l <;> rfl
  | disableAll => exact hanswered _
  | getDevices | getEnumeratedDevices _ | getControllerConfig | enableAll | recover => rfl
  | setDevices _ _ | setControllerConfig _ _ _ _ | reload _ _ _ | nvInit _ _ _ _ => cases hr

end Service

end Fancon
