import Fancon.Controller.ManualControl
import Fancon.Controller.Tasks
import Fancon.Service.ControllerConfig

/-! # The requests of the service

`Service` answers each request from what its controller does. Requests about one fan look it up
under the label they carry, `GetDevices` lists the labels the fans have themselves. In every run a
request about a fan fails exactly when its label is not listed, and then it has changed nothing
(`requests_answered`); what a subscriber is told first is what it would be told fan by fan
(`subscription_starts`).
-/
set_option autoImplicit false
set_option maxHeartbeats 250000
set_option maxRecDepth 120000

namespace Fancon

/-! ## Messages -/

/-- `fc_pb::FanStatus_Status`. -/
inductive FanStatus
  | enabled
  | disabled
  | testing
deriving DecidableEq

/-- `fc_pb::FanStatus`. -/
structure FanStatusMsg where
  label : String := ""
  status : FanStatus := .enabled
  rpm : Rpm := 0
  pwm : Pwm := 0
deriving DecidableEq

/-- The `grpc::Status`es that the service returns. -/
inductive RpcStatus
  | ok
  | notFound (message : String)
deriving DecidableEq

inductive Response
  | empty
  | devices (d : DevicesMsg)
  | config (config : ControllerConfig)
  | fanStatus (s : FanStatusMsg)

structure Reply where
  status : RpcStatus := .ok
  response : Response := .empty

/-- When a request is answered: at once, or once the thread of the test that it has started has
ended. -/
inductive Answer
  | now (reply : Reply)
  | afterTest (label : String)

def Answer.reply : Answer → Reply
  | .now reply => reply
  | .afterTest _ => {}

/-- What the devices of the fans read while a request is answered. -/
structure Readouts where
  rpm : Fan → Rpm
  pwm : Fan → Pwm

namespace Controller

def status (c : Controller) (l : String) : FanStatus :=
  match c.tasks.find? l with
  | none => .disabled
  | some task => if task.testing then .testing else .enabled

theorem status_eq (c : Controller) (l : String) : c.status l =
    match c.testing? l with
    | none => .disabled
    | some false => .enabled
    | some true => .testing := by
  unfold status testing?
  cases c.tasks.find? l with
  | none => rfl
  | some task =>
    obtain ⟨testing⟩ := task
    cases testing <;> rfl

theorem status_eq_disabled {c : Controller} {l : String} :
    c.status l = .disabled ↔ c.testing? l = none := by
  rw [status_eq]
  rcases c.testing? l with _ | _ | _ <;> simp

theorem status_eq_enabled {c : Controller} {l : String} :
    c.status l = .enabled ↔ c.testing? l = some false := by
  rw [status_eq]
  rcases c.testing? l with _ | _ | _ <;> simp

theorem status_eq_testing {c : Controller} {l : String} : c.status l = .testing ↔ c.Tests l := by
  rw [status_eq, Tests]
  rcases c.testing? l with _ | _ | _ <;> simp

end Controller

/-! ## Requests -/

/-- A request, with what the files and the devices hold while it is answered. -/
inductive Request
  | getDevices
  | setDevices (env : Env) (d : DevicesMsg)
  | getEnumeratedDevices (found : Found)
  | getControllerConfig
  | setControllerConfig (env : Env) (found : Found) (file : Option Text)
      (config : ControllerConfig)
  | getFanStatus (label : String)
  | enable (label : String)
  | enableAll
  | disable (label : String)
  | disableAll
  | test (label : String) (forced : Bool)
  | reload (env : Env) (found : Found) (file : Option Text)
  | recover
  | nvInit (initialised : Bool) (env : Env) (found : Found) (file : Option Text)

/-- The label that a request about one fan carries. -/
def Request.label? : Request → Option String
  | .getFanStatus l | .enable l | .disable l | .test l _ => some l
  | _ => none

namespace Service

variable (drv : Driver) (parse : Text → Bool × ControllerMsg) (read : Readouts)

def onFan (c : Controller) (l : String) (answer : Fan → Option (Controller × Answer)) :
    Option (Controller × Answer) :=
  match c.fan? l with
  | none => some (c, .now { status := .notFound l })
  | some f => answer f

def getDevices (c : Controller) : DevicesMsg := c.devices.save

def fanStatus (c : Controller) (l : String) (f : Fan) : FanStatusMsg where
  label := l
  status := c.status l
  rpm := read.rpm f
  pwm := read.pwm f

def getFanStatus (c : Controller) (l : String) : Option (Controller × Answer) :=
  onFan c l fun f => some (c, .now { response := .fanStatus (fanStatus read c l f) })

def enable (c : Controller) (l : String) : Option (Controller × Answer) :=
  onFan c l fun _ => some (c.enable drv l, .now {})

def disable (c : Controller) (l : String) : Option (Controller × Answer) :=
  onFan c l fun _ => (c.disable drv l).map fun c => (c, .now {})

/-- `Controller::test` blocks until the test that it has started has ended; the state is the one in
which that starts. -/
def test (c : Controller) (l : String) (forced : Bool) : Option (Controller × Answer) :=
  onFan c l fun f => (c.test drv l forced true).map fun c =>
    (c, if f.ignore || (f.tested && !forced) then .now {} else .afterTest l)

/-- What a request does and how it is answered; one that is blocked for ever has no answer. -/
def handle (c : Controller) : Request → Option (Controller × Answer)
  | .getDevices => some (c, .now { response := .devices (getDevices c) })
  | .setDevices env d => (c.setDevices drv env d).map fun c => (c, .now {})
  | .getEnumeratedDevices found =>
    some (c, .now { response := .devices (Devices.enumerate found).save })
  | .getControllerConfig => some (c, .now { response := .config (getControllerConfig c) })
  | .setControllerConfig env found file config =>
    (setControllerConfig drv env parse (Devices.enumerate found) file config c).map
      fun c => (c, .now {})
  | .getFanStatus l => getFanStatus read c l
  | .enable l => enable drv c l
  | .enableAll => some (c.enableAll drv, .now {})
  | .disable l => disable drv c l
  | .disableAll => (c.disableAll drv).map fun c => (c, .now {})
  | .test l forced => test drv c l forced
  | .reload env found file =>
    (c.reload drv env parse (Devices.enumerate found) file).map fun c => (c, .now {})
  | .recover => some (c.recover drv, .now {})
  | .nvInit initialised env found file =>
    if initialised then
      (c.reload drv env parse (Devices.enumerate found) file).map fun c => (c, .now {})
    else some (c, .now {})

/-- The first messages of `SubscribeFanStatus`. -/
def subscribeFanStatus (c : Controller) : List FanStatusMsg :=
  c.devices.fans.entries.map fun e => { fanStatus read c e.1 e.2 with label := e.2.label }

/-! ## Runs -/

/-- A request, `run` once the server is up, what a running test writes to its fan, the end of a
test, or a reload by the watcher. -/
inductive Event
  | request (r : Request)
  | run
  | testWrites (label : String) (result : TestResult)
  | testComplete (label : String) (result : TestResult)
  | watch (env : Env) (found : Found) (file : Option Text)

def next (c : Controller) : Event → Option Controller
  | .request r => (handle drv parse read c r).map Prod.fst
  | .run => some (c.enableAll drv)
  | .testWrites l r => c.testWrites l r
  | .testComplete l r => c.testComplete drv l r
  | .watch env found file => c.reload drv env parse (Devices.enumerate found) file

/-- The runs that start with the constructor of the controller. -/
def system (drivers : Driver → Prop) : Transition.System Controller Event where
  init c := ∃ drv env found file, drivers drv ∧
    Controller.reload drv env parse (Devices.enumerate found) file {} = some c
  step c e c' := ∃ drv read, drivers drv ∧ next drv parse read c e = some c'

variable {drv parse read} {c c' : Controller}

/-- What every state of every run has. -/
structure Sound (c : Controller) : Prop where
  wellFormed : Controller.WellFormed c
  tended : Controller.Tended c

variable (parse) in
theorem Sound.perform (h : Sound c) (op : Operation) (hop : c.perform drv parse op = some c') :
    Sound c' := ⟨h.wellFormed.perform hop, h.tended.perform h.wellFormed hop⟩

theorem Sound.withSettings (h : Sound c) (settings : Settings) :
    Sound { c with settings := settings } := ⟨h.wellFormed.withSettings settings, h.tended⟩

/-! ## What a request can do -/

/-- The fan is not there, or the request is answered. -/
theorem onFan_cases {l : String} {answer : Fan → Option (Controller × Answer)} {a : Answer}
    (h : onFan c l answer = some (c', a)) :
    (c.fan? l = none ∧ c' = c ∧ a = .now { status := .notFound l }) ∨
      ∃ f, c.fan? l = some f ∧ answer f = some (c', a) := by
  unfold onFan at h
  cases hf : c.fan? l with
  | none =>
    rw [hf] at h
    obtain ⟨rfl, rfl⟩ := Prod.mk.inj (Option.some.inj h)
    exact Or.inl ⟨rfl, rfl, rfl⟩
  | some f =>
    rw [hf] at h
    exact Or.inr ⟨f, rfl, h⟩

/-- A request that is answered leaves the controller alone or is an operation, in front of which it
may have changed the settings. It ends no test. -/
inductive Does (drv : Driver) (parse : Text → Bool × ControllerMsg) (c c' : Controller) : Prop
  | nothing : c' = c → Does drv parse c c'
  | operation (settings : Settings) (op : Operation) :
      op.endsTest = false →
      ({ c with settings := settings } : Controller).perform drv parse op = some c' →
      Does drv parse c c'

theorem does_of_map {x : Option Controller} (settings : Settings) (op : Operation) {a b : Answer}
    (hb : b.reply.status = .ok) (hop : op.endsTest = false)
    (hx : x = ({ c with settings := settings } : Controller).perform drv parse op)
    (h : x.map (fun c => (c, b)) = some (c', a)) :
    a.reply.status = .ok ∧ Does drv parse c c' := by
  obtain ⟨d, hd, heq⟩ := Option.map_eq_some_iff.mp h
  obtain ⟨rfl, rfl⟩ := Prod.mk.inj heq
  exact ⟨hb, .operation settings op hop (hx ▸ hd)⟩

theorem handle_cases {r : Request} {a : Answer} (h : handle drv parse read c r = some (c', a)) :
    (∃ l, r.label? = some l ∧ c.fan? l = none ∧ c' = c ∧ a = .now { status := .notFound l }) ∨
      (a.reply.status = .ok ∧ Does drv parse c c') ∧
        ∀ l, r.label? = some l → ∃ f, c.fan? l = some f := by
  have hread : ∀ {response : Response}, some (c, Answer.now { response := response }) =
      some (c', a) → a.reply.status = .ok ∧ Does drv parse c c' := by
    intro response h
    obtain ⟨rfl, rfl⟩ := Prod.mk.inj (Option.some.inj h)
    exact ⟨rfl, .nothing rfl⟩
  have hfan : ∀ {l : String} {answer : Fan → Option (Controller × Answer)},
      onFan c l answer = some (c', a) → r.label? = some l →
      (∀ f, answer f = some (c', a) → a.reply.status = .ok ∧ Does drv parse c c') →
      (∃ l, r.label? = some l ∧ c.fan? l = none ∧ c' = c ∧ a = .now { status := .notFound l }) ∨
        (a.reply.status = .ok ∧ Does drv parse c c') ∧
          ∀ l, r.label? = some l → ∃ f, c.fan? l = some f := by
    intro l answer h hl hanswer
    rcases onFan_cases h with ⟨hnone, heq⟩ | ⟨f, hf, h⟩
    · exact Or.inl ⟨l, hl, hnone, heq⟩
    · exact Or.inr ⟨hanswer f h, fun k hk => ⟨f, Option.some.inj (hl.symm.trans hk) ▸ hf⟩⟩
  have hdone : ∀ {x : Option Controller} (op : Operation), op.endsTest = false →
      x = c.perform drv parse op → x.map (fun c => (c, Answer.now {})) = some (c', a) →
      a.reply.status = .ok ∧ Does drv parse c c' := fun op => does_of_map c.settings op rfl
  cases r with
  | getFanStatus l => exact hfan h rfl fun _ => hread
  | enable l => exact hfan h rfl fun _ => hdone (x := some _) (.enable l) rfl rfl
  | disable l => exact hfan h rfl fun _ => hdone (.disable l) rfl rfl
  | test l forced =>
    refine hfan h rfl fun f => does_of_map c.settings (.test l forced true) ?_ rfl rfl
    split_ifs <;> rfl
  | getDevices => exact Or.inr ⟨hread h, nofun⟩
  | getEnumeratedDevices found => exact Or.inr ⟨hread h, nofun⟩
  | getControllerConfig => exact Or.inr ⟨hread h, nofun⟩
  | setDevices env d => exact Or.inr ⟨hdone (.setDevices env d) rfl rfl h, nofun⟩
  | setControllerConfig env found file config =>
    refine Or.inr ⟨?_, nofun⟩
    exact does_of_map (b := .now {}) (c.settings.load config) (.reload env found file) rfl rfl rfl h
  | enableAll => exact Or.inr ⟨hdone (x := some _) .enableAll rfl rfl h, nofun⟩
  | disableAll => exact Or.inr ⟨hdone .disableAll rfl rfl h, nofun⟩
  | reload env found file => exact Or.inr ⟨hdone (.reload env found file) rfl rfl h, nofun⟩
  | recover => exact Or.inr ⟨hdone (x := some _) .recover rfl rfl h, nofun⟩
  | nvInit initialised env found file =>
    cases initialised with
    | false => exact Or.inr ⟨hread h, nofun⟩
    | true => exact Or.inr ⟨hdone (.reload env found file) rfl rfl h, nofun⟩

theorem Sound.handle (h : Sound c) {r : Request} {a : Answer}
    (hr : handle drv parse read c r = some (c', a)) : Sound c' := by
  rcases handle_cases hr with ⟨-, -, -, rfl, -⟩ | ⟨⟨-, hdoes⟩, -⟩
  · exact h
  · cases hdoes with
    | nothing heq => exact heq ▸ h
    | operation settings op _ hop => exact (h.withSettings settings).perform parse op hop

theorem sound_start : Sound {} := ⟨Controller.wellFormed_start, fun _ h => by cases h⟩

theorem Sound.next (h : Sound c) {e : Event} (he : next drv parse read c e = some c') :
    Sound c' := by
  cases e with
  | request r =>
    obtain ⟨⟨_, a⟩, hr, rfl⟩ := Option.map_eq_some_iff.mp he
    exact h.handle hr
  | run => exact h.perform parse .enableAll he
  | testWrites l r =>
    have hop : c.perform drv parse (.testWrites l r) = some c' := he
    exact h.perform parse (.testWrites l r) hop
  | testComplete l r => exact h.perform parse (.testComplete l r) he
  | watch env found file => exact h.perform parse (.reload env found file) he

theorem sound_of_reachable {drivers : Driver → Prop}
    (hc : Transition.Reachable (system parse drivers) c) : Sound c := by
  refine Transition.ReachableWhen.invariant Sound ?_ ?_ hc
  · rintro c ⟨drv, env, found, file, -, hreload⟩
    exact sound_start.perform parse (.reload env found file) hreload
  · rintro c e c' h - ⟨drv, read, -, hstep⟩
    exact h.next hstep

/-! ## Labels -/

/-- The labels of the fans that `GetDevices` lists. -/
def listed (c : Controller) : List String := (getDevices c).fan.map FanMsg.label

theorem label_save (f : Fan) : f.save.label = f.label := by
  unfold Fan.save
  cases f.kind <;> rfl

theorem listed_eq (h : Controller.Labelled c) : listed c = c.devices.fans.keys := by
  unfold listed getDevices Devices.save
  rw [List.map_map]
  refine List.map_congr_left fun e he => ?_
  exact (label_save e.2).trans (h e.1 e.2 (UnorderedMap.mem_entries.mp he))

theorem mem_listed (h : Controller.Labelled c) {l : String} :
    l ∈ listed c ↔ ∃ f, c.fan? l = some f := by
  rw [listed_eq h]
  exact UnorderedMap.mem_keys_iff

/-! ## A service with one fan -/

theorem reload_start (drv : Driver) (parse : Text → Bool × ControllerMsg) :
    Controller.reload drv readyEnv parse (Devices.enumerate {}) none {} = some {} := rfl

theorem reachable_case (parse : Text → Bool × ControllerMsg) (curve : String) :
    Transition.Reachable (system parse fun _ => True) (Controller.caseController curve) :=
  .step (.init ⟨willingDriver, readyEnv, {}, none, trivial, reload_start willingDriver parse⟩)
    trivial (a := .request (.setDevices readyEnv (Controller.caseDevices curve)))
    ⟨willingDriver, ⟨fun _ => 0, fun _ => 0⟩, trivial,
      congrArg (Option.map fun c => c) (Controller.setDevices_case curve)⟩

/-! ## What is answered -/

theorem handle_of_missing {r : Request} {l : String} (hl : r.label? = some l)
    (hnone : c.fan? l = none) :
    handle drv parse read c r = some (c, .now { status := .notFound l }) := by
  have hfan : ∀ answer, onFan c l answer = some (c, .now { status := .notFound l }) := by
    intro answer
    rw [onFan, hnone]
  cases r with
  | getFanStatus k | enable k | disable k | test k forced =>
    obtain rfl := Option.some.inj hl
    exact hfan _
  | _ => cases hl

/-- **In every state of every run a request about a fan that is not listed is answered, with its
label; it leaves the controller as it was, and no other request fails.** -/
theorem requests_answered (drivers : Driver → Prop) (drv : Driver)
    (parse : Text → Bool × ControllerMsg) (read : Readouts) (c : Controller)
    (hc : Transition.Reachable (system parse drivers) c) (r : Request) :
    (∀ l, r.label? = some l → l ∉ listed c →
      handle drv parse read c r = some (c, .now { status := .notFound l })) ∧
    ∀ c' a, handle drv parse read c r = some (c', a) → a.reply.status ≠ .ok →
      ∃ l, r.label? = some l ∧ l ∉ listed c ∧ a = .now { status := .notFound l } ∧ c' = c := by
  have hlabelled := (sound_of_reachable hc).wellFormed.labelled
  constructor
  · intro l hl hnot
    apply handle_of_missing hl
    refine Option.eq_none_iff_forall_ne_some.mpr fun f hf => hnot ?_
    exact (mem_listed hlabelled).mpr ⟨f, hf⟩
  · intro c' a hr hfails
    rcases handle_cases hr with ⟨l, hl, hnone, rfl, rfl⟩ | ⟨⟨hok, -⟩, -⟩
    · refine ⟨l, hl, fun hmem => ?_, rfl, rfl⟩
      obtain ⟨f, hf⟩ := (mem_listed hlabelled).mp hmem
      cases hnone.symm.trans hf
    · exact absurd hok hfails

theorem requests_answered_case :
    handle willingDriver (fun _ => (true, {})) ⟨fun _ => 0, fun _ => 0⟩
        (Controller.caseController "40: 800") (.disable "rear") =
      some (Controller.caseController "40: 800", .now { status := .notFound "rear" }) :=
  (requests_answered (fun _ => True) willingDriver (fun _ => (true, {})) _ _
    (reachable_case _ "40: 800") (.disable "rear")).1 "rear" rfl (by decide +kernel)

/-! ## What a subscriber is told first -/

/-- A reported status is one that a fan with the listed entry can have. -/
def Plausible (s : FanStatusMsg) (m : FanMsg) : Prop :=
  m.label = s.label ∧ (s.status ≠ .disabled → m.ignore = false) ∧
    (s.status = .enabled → m.tempToRpm ≠ [])

theorem plausible_of_sound (h : Sound c) {l : String} {f : Fan} (hf : c.fan? l = some f) :
    Plausible (fanStatus read c l f) f.save := by
  have hsave : f.save.ignore = f.ignore ∧ f.save.tempToRpm = f.tempToRpm.str := by
    unfold Fan.save
    cases f.kind <;> exact ⟨rfl, rfl⟩
  have hdisabled : c.status l ≠ .disabled → c.status l = .enabled ∨ c.status l = .testing := by
    intro hne
    cases hs : c.status l with
    | disabled => exact absurd hs hne
    | enabled => exact Or.inl rfl
    | testing => exact Or.inr rfl
  have htended : c.status l = .enabled → f.ignore = false ∧ f.isConfigured = true := by
    intro hs
    obtain ⟨g, hg, hignore, hconf⟩ := h.tended l (Controller.status_eq_enabled.mp hs)
    obtain rfl := Option.some.inj (hf.symm.trans hg)
    exact ⟨hignore, hconf⟩
  refine ⟨(label_save f).trans (h.wellFormed.labelled l f hf), fun hne => ?_, fun hs => ?_⟩
  · rw [hsave.1]
    rcases hdisabled hne with hs | hs
    · exact (htended hs).1
    · obtain ⟨g, hg, hignore⟩ := h.wellFormed.testsKnown l (Controller.status_eq_testing.mp hs)
      obtain rfl := Option.some.inj (hf.symm.trans hg)
      exact hignore
  · rw [hsave.2]
    refine mapStr_ne_nil _ _ fun hempty => ?_
    have hconf := (htended hs).2
    simp [Fan.isConfigured, hempty] at hconf

/-- **In every state of every run a subscriber is first told of each listed fan what `GetFanStatus`
answers for it, once and in the order of the list; a fan that is reported enabled has a curve and
one that is reported enabled or tested is not ignored.** -/
theorem subscription_starts (drivers : Driver → Prop) (parse : Text → Bool × ControllerMsg)
    (read : Readouts) (c : Controller) (hc : Transition.Reachable (system parse drivers) c) :
    (listed c).Nodup ∧
    (listed c).map (getFanStatus read c) =
      (subscribeFanStatus read c).map (fun s => some (c, .now { response := .fanStatus s })) ∧
    List.Forall₂ Plausible (subscribeFanStatus read c) (getDevices c).fan := by
  have h := sound_of_reachable hc
  have hlabel : ∀ e ∈ c.devices.fans.entries, e.2.label = e.1 := fun e he =>
    h.wellFormed.labelled e.1 e.2 (UnorderedMap.mem_entries.mp he)
  refine ⟨?_, ?_, ?_⟩
  · rw [listed_eq h.wellFormed.labelled]
    exact c.devices.fans.nodupKeys
  · rw [listed_eq h.wellFormed.labelled, subscribeFanStatus, List.map_map]
    show (c.devices.fans.entries.map Sigma.fst).map _ = _
    rw [List.map_map]
    refine List.map_congr_left fun e he => ?_
    have hf : c.fan? e.1 = some e.2 := UnorderedMap.mem_entries.mp he
    simp only [Function.comp_apply, getFanStatus, onFan, hf, hlabel e he]
    rfl
  · show List.Forall₂ Plausible (c.devices.fans.entries.map _) (c.devices.fans.entries.map _)
    rw [List.forall₂_map_left_iff, List.forall₂_map_right_iff]
    refine List.forall₂_same.mpr fun e he => ?_
    have hf : c.fan? e.1 = some e.2 := UnorderedMap.mem_entries.mp he
    have hp : Plausible (fanStatus read c e.1 e.2) e.2.save := plausible_of_sound h hf
    refine ⟨(label_save e.2).trans rfl, hp.2.1, hp.2.2⟩

theorem subscription_starts_case :
    (listed (Controller.caseController "40: 800")).map
        (getFanStatus ⟨fun _ => 900, fun _ => 120⟩ (Controller.caseController "40: 800")) =
      (subscribeFanStatus ⟨fun _ => 900, fun _ => 120⟩ (Controller.caseController "40: 800")).map
        fun s => some (Controller.caseController "40: 800", .now { response := .fanStatus s }) :=
  (subscription_starts (fun _ => True) (fun _ => (true, {})) _ _ (reachable_case _ "40: 800")).2.1

end Service

end Fancon
