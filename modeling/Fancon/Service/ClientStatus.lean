import Fancon.Controller.ReloadAgain
import Fancon.Service.Board

/-! # `fancon status`

The client asks for the devices and then, one request after the other, for the status of each fan
that was listed; the service answers other clients in between. A fan that is not there any more when
its turn comes is left out. The lines that are printed are of listed fans, once each and in their
order, with their columns aligned (`status_rows`); as long as no device is replaced in between every
listed fan has its line, and that tells a status which the listed fan can have (`status_shown`).
-/
set_option autoImplicit false
set_option maxHeartbeats 250000
set_option maxRecDepth 120000

namespace Fancon

open KeyedMerge

namespace Service

open Controller

/-! ## `Client::status` -/

def statusText : FanStatus → String
  | .enabled => "enabled"
  | .disabled => "disabled"
  | .testing => "testing"

/-- `std::setw`: blanks on the left of what is written next. -/
def setw (width : ℕ) (s : String) : String :=
  String.ofList (List.replicate (width - s.utf8ByteSize) ' ') ++ s

/-- The variables of `status`; `left` are the fans that are still to be asked for. -/
structure StatusQuery where
  devices : DevicesMsg
  left : List FanMsg
  longestLabel : ℕ := 0
  longestStatus : ℕ := 0
  statuses : List FanStatusMsg := []

namespace StatusQuery

def receive (q : StatusQuery) (rest : List FanMsg) (reply : Reply) : StatusQuery :=
  match reply.status, reply.response with
  | .ok, .fanStatus s =>
    { q with
      left := rest
      longestLabel := max q.longestLabel s.label.utf8ByteSize
      longestStatus := max q.longestStatus (statusText s.status).utf8ByteSize
      statuses := q.statuses ++ [s] }
  | _, _ => { q with left := rest }

def extras (s : FanStatusMsg) : String :=
  if s.status ≠ .disabled then
    setw 4 (String.ofList (U32.digits s.rpm)) ++ "rpm, " ++
      setw 3 (String.ofList (U32.digits s.pwm)) ++ "pwm"
  else ""

def line (q : StatusQuery) (s : FanStatusMsg) : String :=
  setw q.longestLabel s.label ++ ": " ++ extras s ++ " " ++
    setw q.longestStatus (statusText s.status)

def lines (q : StatusQuery) : List String := q.statuses.map q.line

end StatusQuery

inductive StatusClient
  | idle
  | noDevices
  | asking (q : StatusQuery)

structure Queried where
  controller : Controller
  client : StatusClient

/-- What the service does otherwise, or a request of the client. -/
inductive QueryEvent
  | serve (e : Event)
  | getDevices
  | getFanStatus

def nextQueried (drv : Driver) (parse : Text → Bool × ControllerMsg) (read : Readouts)
    (s : Queried) : QueryEvent → Option Queried
  | .serve e => (next drv parse read s.controller e).map fun c => { s with controller := c }
  | .getDevices =>
    match s.client with
    | .idle =>
      let devices := getDevices s.controller
      some { s with
        client := if devices.fan.isEmpty then .noDevices
          else .asking { devices := devices, left := devices.fan } }
    | _ => none
  | .getFanStatus =>
    match s.client with
    | .asking q =>
      match q.left with
      | [] => none
      | f :: rest =>
        (getFanStatus read s.controller f.label).map fun answer =>
        ⟨answer.1, .asking (q.receive rest answer.2.reply)⟩
    | _ => none

def statusSystem (parse : Text → Bool × ControllerMsg) (drivers : Driver → Prop) :
    Transition.System Queried QueryEvent where
  init s := Transition.Reachable (system parse drivers) s.controller ∧ s.client = .idle
  step s e s' := ∃ drv read, drivers drv ∧ nextQueried drv parse read s e = some s'

/-- An event that may put other devices in the place of those that are there. -/
def Event.replacesDevices : Event → Bool
  | .request r => Service.replacesDevices r
  | .watch .. => true
  | _ => false

/-- No device is replaced while the client asks for the statuses. -/
def Undisturbed (s : Queried) (e : QueryEvent) : Prop :=
  ∀ q ev, s.client = .asking q → e = .serve ev → ev.replacesDevices = false

/-! ## A step of the client -/

variable {drv : Driver} {parse : Text → Bool × ControllerMsg} {read : Readouts}
  {c c' : Controller} {s s' : Queried} {q q' : StatusQuery}

/-- What a reply does: the fan is there and its status is kept, or it is left out. -/
theorem receive_cases {f : FanMsg} {rest : List FanMsg}
    (h : (getFanStatus read c f.label).map (fun answer => Queried.mk answer.1
      (.asking (q.receive rest answer.2.reply))) = some s') :
    s'.controller = c ∧
      ((c.fan? f.label = none ∧ s'.client = .asking { q with left := rest }) ∨
        ∃ x, c.fan? f.label = some x ∧ s'.client = .asking
          { q with
            left := rest
            longestLabel := max q.longestLabel f.label.utf8ByteSize
            longestStatus := max q.longestStatus
              (statusText (fanStatus read c f.label x).status).utf8ByteSize
            statuses := q.statuses ++ [fanStatus read c f.label x] }) := by
  unfold getFanStatus onFan at h
  cases hx : c.fan? f.label with
  | none =>
    rw [hx] at h
    obtain rfl := Option.some.inj h
    exact ⟨rfl, Or.inl ⟨rfl, rfl⟩⟩
  | some x =>
    rw [hx] at h
    obtain rfl := Option.some.inj h
    exact ⟨rfl, Or.inr ⟨x, rfl, rfl⟩⟩

/-- A step changes only the controller, or starts the queries, or receives a reply. -/
theorem queried_cases {e : QueryEvent} (h : nextQueried drv parse read s e = some s') :
    (∃ ev, e = .serve ev ∧ next drv parse read s.controller ev = some s'.controller ∧
      s'.client = s.client) ∨
    (s'.controller = s.controller ∧ (s'.client = .noDevices ∨ s'.client =
      .asking { devices := getDevices s.controller, left := (getDevices s.controller).fan })) ∨
    ∃ q f rest, s.client = .asking q ∧ q.left = f :: rest ∧
      (getFanStatus read s.controller f.label).map (fun answer => Queried.mk answer.1
        (.asking (q.receive rest answer.2.reply))) = some s' := by
  obtain ⟨c, client⟩ := s
  cases e with
  | serve ev =>
    obtain ⟨c', hc', rfl⟩ := Option.map_eq_some_iff.mp h
    exact Or.inl ⟨ev, rfl, hc', rfl⟩
  | getDevices =>
    cases client with
    | idle =>
      obtain rfl := Option.some.inj h
      refine Or.inr (Or.inl ⟨rfl, ?_⟩)
      show (if _ then StatusClient.noDevices else _) = _ ∨ _
      split_ifs
      · exact Or.inl rfl
      · exact Or.inr rfl
    | noDevices => cases h
    | asking q => cases h
  | getFanStatus =>
    cases client with
    | idle => cases h
    | noDevices => cases h
    | asking q =>
      cases hleft : q.left with
      | nil => simp [nextQueried, hleft] at h
      | cons f rest =>
        refine Or.inr (Or.inr ⟨q, f, rest, rfl, hleft, ?_⟩)
        simpa only [nextQueried, hleft] using h

/-! ## The lines -/

theorem utf8ByteSize_setw {width : ℕ} {t : String} (h : t.utf8ByteSize ≤ width) :
    (setw width t).utf8ByteSize = width := by
  have hblanks : ∀ n, (String.ofList (List.replicate n ' ')).utf8ByteSize = n := by
    intro n
    induction n with
    | zero => rfl
    | succ n ih =>
      rw [List.replicate_succ', String.ofList_append, String.utf8ByteSize_append, ih]
      rfl
  rw [setw, String.utf8ByteSize_append, hblanks]
  omega

/-- The statuses are those of listed fans in their order, and fit in the columns. -/
structure Rows (q : StatusQuery) : Prop where
  nodup : (q.devices.fan.map FanMsg.label).Nodup
  asked : ∃ asked, q.devices.fan = asked ++ q.left ∧
    (q.statuses.map FanStatusMsg.label).Sublist (asked.map FanMsg.label)
  widths : ∀ s ∈ q.statuses, s.label.utf8ByteSize ≤ q.longestLabel ∧
    (statusText s.status).utf8ByteSize ≤ q.longestStatus

theorem rows_start (hc : Sound c) :
    Rows { devices := getDevices c, left := (getDevices c).fan } where
  nodup := by
    rw [show (getDevices c).fan.map FanMsg.label = c.devices.fans.keys from
      listed_eq hc.wellFormed.labelled]
    exact c.devices.fans.nodupKeys
  asked := ⟨[], rfl, List.Sublist.refl []⟩
  widths s hs := by cases hs

theorem Rows.receive (hq : Rows q) {f : FanMsg} {rest : List FanMsg} (hleft : q.left = f :: rest)
    (h : (getFanStatus read c f.label).map (fun answer => Queried.mk answer.1
      (.asking (q.receive rest answer.2.reply))) = some s') (hs : s'.client = .asking q') :
    Rows q' := by
  obtain ⟨asked, hasked, hsub⟩ := hq.asked
  rw [hleft, List.append_cons] at hasked
  rcases (receive_cases h).2 with ⟨-, heq⟩ | ⟨x, -, heq⟩
  · obtain rfl := StatusClient.asking.inj (hs.symm.trans heq)
    refine ⟨hq.nodup, ⟨asked ++ [f], hasked, ?_⟩, hq.widths⟩
    rw [List.map_append]
    exact hsub.trans (List.sublist_append_left ..)
  · obtain rfl := StatusClient.asking.inj (hs.symm.trans heq)
    refine ⟨hq.nodup, ⟨asked ++ [f], hasked, ?_⟩, fun t ht => ?_⟩
    · rw [List.map_append, List.map_append]
      exact hsub.append (List.Sublist.refl [f.label])
    · rcases List.mem_append.mp ht with ht | ht
      · exact ⟨(hq.widths t ht).1.trans (le_max_left ..), (hq.widths t ht).2.trans (le_max_left ..)⟩
      · obtain rfl := List.mem_singleton.mp ht
        exact ⟨le_max_right .., le_max_right ..⟩

structure QueriedRows (s : Queried) : Prop where
  sound : Sound s.controller
  rows : ∀ q, s.client = .asking q → Rows q

theorem QueriedRows.next {e : QueryEvent} (hs : QueriedRows s)
    (h : nextQueried drv parse read s e = some s') : QueriedRows s' := by
  rcases queried_cases h with
    ⟨ev, -, hnext, hclient⟩ | ⟨hsame, hclient⟩ | ⟨q, f, rest, hq, hleft, hreply⟩
  · exact ⟨hs.sound.next hnext, fun q hq => hs.rows q (hclient ▸ hq)⟩
  · refine ⟨hsame ▸ hs.sound, fun q hq => ?_⟩
    rcases hclient with hnone | hstart
    · cases hnone.symm.trans hq
    · obtain rfl := StatusClient.asking.inj (hstart.symm.trans hq)
      exact rows_start hs.sound
  · have hsame := (receive_cases hreply).1
    exact ⟨hsame ▸ hs.sound, fun q' hq' => (hs.rows q hq).receive hleft hreply hq'⟩

theorem queriedRows_of_reachable {drivers : Driver → Prop} {ok : Queried → QueryEvent → Prop}
    (h : Transition.ReachableWhen (statusSystem parse drivers) ok s) : QueriedRows s := by
  apply Transition.ReachableWhen.invariant QueriedRows ?_ ?_ h
  · rintro s ⟨hc, hclient⟩
    exact ⟨sound_of_reachable hc, fun q hq => by cases hclient.symm.trans hq⟩
  · rintro s e s' hs - ⟨drv, read, -, hnext⟩
    exact hs.next hnext

/-- The client asks for the devices and for the one fan; in between another one disables that. -/
theorem queried_case {ok : Queried → QueryEvent → Prop} (hdevices : ∀ s, ok s .getDevices)
    (hserve : ∀ s, ok s (.serve (.request (.disable "case")))) (hstatus : ∀ s, ok s .getFanStatus) :
    ∃ (c : Controller) (q : StatusQuery), q.devices = getDevices (caseController "40: 800") ∧
      q.left = [] ∧ q.statuses.map (fun t => (t.label, t.status)) = [("case", .disabled)] ∧
      Transition.ReachableWhen (statusSystem (fun _ => (true, {})) fun _ => True) ok
        ⟨c, .asking q⟩ := by
  have hc := reachable_case (fun _ => (true, {})) "40: 800"
  have hlabels : (getDevices (caseController "40: 800")).fan.map FanMsg.label = ["case"] := by
    decide +kernel
  obtain ⟨m, ms, hm, hlabel, hms⟩ := List.map_eq_cons_iff.mp hlabels
  obtain rfl := List.map_eq_nil_iff.mp hms
  obtain ⟨c, hdisable⟩ := disable_returns willingDriver
    (untested_of_keys (c := caseController "40: 800") (by decide +kernel)) "case"
  have hdisabled : c.status "case" = .disabled := by
    rw [status_eq, testing?_disable hdisable, if_pos (by decide +kernel)]
  obtain ⟨f, hf⟩ := (mem_listed (sound_of_reachable hc).wellFormed.labelled).mp
    (by rw [listed, hlabels]; exact List.mem_singleton_self "case")
  obtain ⟨g, hg, -⟩ := (controls_disable hdisable).fan? hf
  let read : Readouts := ⟨fun _ => 900, fun _ => 120⟩
  let q : StatusQuery := { devices := getDevices (caseController "40: 800"), left := [m] }
  have hstart : nextQueried willingDriver (fun _ => (true, {})) read
      ⟨caseController "40: 800", .idle⟩ .getDevices =
        some ⟨caseController "40: 800", .asking q⟩ := by
    simp only [nextQueried, hm, List.isEmpty_cons, Bool.false_eq_true, if_false, q]
  have hother : nextQueried willingDriver (fun _ => (true, {})) read
      ⟨caseController "40: 800", .asking q⟩ (.serve (.request (.disable "case"))) =
        some ⟨c, .asking q⟩ := by
    simp only [nextQueried, next, handle, disable, onFan, hf, hdisable, Option.map_some]
  have hreply : nextQueried willingDriver (fun _ => (true, {})) read ⟨c, .asking q⟩ .getFanStatus =
      some ⟨c, .asking (q.receive [] { response := .fanStatus (fanStatus read c "case" g) })⟩ := by
    simp only [nextQueried, getFanStatus, onFan, hlabel, hg, Option.map_some, Answer.reply, q]
  refine ⟨c, _, rfl, rfl, ?_, .step (a := .getFanStatus) (.step (a := .serve _) (.step
    (a := .getDevices) (s := ⟨caseController "40: 800", .idle⟩) (.init ⟨hc, rfl⟩) (hdevices _)
    ⟨willingDriver, read, trivial, hstart⟩) (hserve _) ⟨willingDriver, read, trivial, hother⟩)
    (hstatus _) ⟨willingDriver, read, trivial, hreply⟩⟩
  show [("case", c.status "case")] = _
  rw [hdisabled]

/-- A line of the output: a column with the label, what the device reads, and one with the
status. -/
structure Aligned (q : StatusQuery) (t : FanStatusMsg) (line : String) : Prop where
  line : line = setw q.longestLabel t.label ++ ": " ++ StatusQuery.extras t ++ " " ++
    setw q.longestStatus (statusText t.status)
  label : (setw q.longestLabel t.label).utf8ByteSize = q.longestLabel
  status : (setw q.longestStatus (statusText t.status)).utf8ByteSize = q.longestStatus

/-- **In every run, whatever the service does for others in between, the lines that are printed are
of listed fans, once each and in the order of the list, and their columns are aligned.** -/
theorem status_rows (parse : Text → Bool × ControllerMsg) (drivers : Driver → Prop) (s : Queried)
    (h : Transition.Reachable (statusSystem parse drivers) s) (q : StatusQuery)
    (hq : s.client = .asking q) :
    (q.statuses.map FanStatusMsg.label).Sublist (q.devices.fan.map FanMsg.label) ∧
    (q.statuses.map FanStatusMsg.label).Nodup ∧
    List.Forall₂ (Aligned q) q.statuses q.lines := by
  have hrows := (queriedRows_of_reachable h).rows q hq
  obtain ⟨asked, hasked, hsub⟩ := hrows.asked
  have hlisted : (q.statuses.map FanStatusMsg.label).Sublist (q.devices.fan.map FanMsg.label) := by
    rw [hasked, List.map_append]
    exact hsub.trans (List.sublist_append_left ..)
  refine ⟨hlisted, hlisted.nodup hrows.nodup, ?_⟩
  refine List.forall₂_map_right_iff.mpr (List.forall₂_same.mpr fun t ht => ⟨rfl, ?_, ?_⟩)
  · exact utf8ByteSize_setw (hrows.widths t ht).1
  · exact utf8ByteSize_setw (hrows.widths t ht).2

theorem status_rows_case : ∃ q : StatusQuery,
    q.statuses.map (fun t => (t.label, t.status)) = [("case", .disabled)] ∧
    (q.statuses.map FanStatusMsg.label).Sublist
      ((getDevices (caseController "40: 800")).fan.map FanMsg.label) ∧
    List.Forall₂ (Aligned q) q.statuses q.lines := by
  obtain ⟨c, q, hdevices, -, hstatuses, hq⟩ := @queried_case (fun _ _ => True)
    (fun _ => trivial) (fun _ => trivial) fun _ => trivial
  obtain ⟨hlisted, -, hlines⟩ := status_rows _ _ _ hq q rfl
  exact ⟨q, hstatuses, hdevices ▸ hlisted, hlines⟩

/-! ## What stays listed -/

/-- What a status depends on. -/
def listedAs (f : Fan) : String × Bool × Text := (f.save.label, f.save.ignore, f.save.tempToRpm)

theorem listedAs_afterTest (f : Fan) (r : TestResult) : listedAs (f.afterTest r) = listedAs f := by
  unfold listedAs Fan.save Fan.afterTest FanKind.withDriverFlag
  cases f.kind <;> rfl

theorem listedAs_of_kept (h : DevicesKept c c') (l : String) :
    (c'.fan? l).map listedAs = (c.fan? l).map listedAs := by
  have hsave : (c'.fan? l).map Fan.save = (c.fan? l).map Fan.save := congrFun h.fans l
  have hlisted : listedAs = (fun m : FanMsg => (m.label, m.ignore, m.tempToRpm)) ∘ Fan.save := rfl
  rw [hlisted, ← Option.map_map, ← Option.map_map, hsave]

theorem listedAs_testWrites {l : String} {r : TestResult}
    (h : c.testWrites l r = some c') (k : String) :
    (c'.fan? k).map listedAs = (c.fan? k).map listedAs := by
  obtain ⟨f, -, hf, rfl⟩ := testWrites_cases h
  rw [fan?_setFan]
  split_ifs with hk
  · rw [hk, hf, Option.map_some, Option.map_some, listedAs_afterTest]
  · rfl

theorem listedAs_testComplete {l : String} {r : TestResult}
    (h : c.testComplete drv l r = some c') (k : String) :
    (c'.fan? k).map listedAs = (c.fan? k).map listedAs := by
  obtain ⟨f, -, hf, rfl⟩ := testComplete_cases h
  rw [listedAs_of_kept (.of_controls (controls_enable _ l)), fan?_setTasks, fan?_setFan]
  split_ifs with hk
  · rw [hk, hf, Option.map_some, Option.map_some, listedAs_afterTest]
  · rfl

theorem keepsDevices_of_outcome (parse : Text → Bool × ControllerMsg) {r : Request}
    (h : outcome drv c r = some c') : DevicesKept c c' := by
  have hperform : ∀ op : Operation, op.keepsDevices = true → c.perform drv parse op = some c' →
      DevicesKept c c' := fun op hquiet hop => devicesKept_perform hquiet hop
  cases r with
  | enable l => exact hperform (.enable l) rfl h
  | enableAll => exact hperform .enableAll rfl h
  | disable l => exact hperform (.disable l) rfl h
  | disableAll => exact hperform .disableAll rfl h
  | test l forced => exact hperform (.test l forced true) rfl h
  | recover => exact hperform .recover rfl h
  | _ => exact Option.some.inj h ▸ .refl c

/-- An event that replaces no devices leaves what a status depends on. -/
theorem listedAs_next (hc : Sound c) {e : Event} (he : e.replacesDevices = false)
    (h : next drv parse read c e = some c') (k : String) :
    (c'.fan? k).map listedAs = (c.fan? k).map listedAs := by
  cases e with
  | request r =>
    have houtcome : outcome drv c r = some c' := by
      rw [← fst_handle drv parse read hc he]
      exact h
    exact listedAs_of_kept (keepsDevices_of_outcome parse houtcome) k
  | run =>
    obtain rfl := Option.some.inj h
    exact listedAs_of_kept (.of_controls (controls_enableAll c)) k
  | testWrites l r => exact listedAs_testWrites h k
  | testComplete l r => exact listedAs_testComplete h k
  | watch env found file => cases he

/-! ## A line for each fan -/

/-- Each fan that was asked for has its status, and those that are left are still listed alike. -/
structure Complete (c : Controller) (q : StatusQuery) : Prop where
  asked : ∃ asked, q.devices.fan = asked ++ q.left ∧ List.Forall₂ Plausible q.statuses asked
  left : ∀ m ∈ q.left, (c.fan? m.label).map listedAs = some (m.label, m.ignore, m.tempToRpm)

theorem complete_start (hc : Sound c) :
    Complete c { devices := getDevices c, left := (getDevices c).fan } where
  asked := ⟨[], rfl, .nil⟩
  left m hm := by
    obtain ⟨e, he, rfl⟩ := List.mem_map.mp hm
    have hf : c.fan? e.1 = some e.2 := UnorderedMap.mem_entries.mp he
    show (c.fan? e.2.save.label).map listedAs = some (listedAs e.2)
    rw [label_save, hc.wellFormed.labelled e.1 e.2 hf, hf, Option.map_some]

theorem Complete.receive (hc : Sound c) (hq : Complete c q) {f : FanMsg} {rest : List FanMsg}
    (hleft : q.left = f :: rest)
    (h : (getFanStatus read c f.label).map (fun answer => Queried.mk answer.1
      (.asking (q.receive rest answer.2.reply))) = some s') (hs : s'.client = .asking q') :
    Complete c q' := by
  obtain ⟨asked, hasked, hrows⟩ := hq.asked
  rw [hleft, List.append_cons] at hasked
  have hf := hq.left f (hleft ▸ List.mem_cons_self)
  have hrest : ∀ m ∈ rest, (c.fan? m.label).map listedAs = some (m.label, m.ignore, m.tempToRpm) :=
    fun m hm => hq.left m (hleft ▸ List.mem_cons_of_mem f hm)
  obtain ⟨x, hx, hlistedAs⟩ := Option.map_eq_some_iff.mp hf
  rcases (receive_cases h).2 with ⟨hnone, -⟩ | ⟨y, hy, heq⟩
  · cases hnone.symm.trans hx
  · obtain rfl := Option.some.inj (hy.symm.trans hx)
    obtain rfl := StatusClient.asking.inj (hs.symm.trans heq)
    refine ⟨⟨asked ++ [f], hasked, List.rel_append hrows (.cons ?_ .nil)⟩, hrest⟩
    have hplausible : Plausible (fanStatus read c f.label y) y.save := plausible_of_sound hc hy
    obtain ⟨-, hignore, hcurve⟩ := hplausible
    obtain ⟨-, hrestEq⟩ := Prod.mk.inj hlistedAs
    obtain ⟨hignoreEq, hcurveEq⟩ := Prod.mk.inj hrestEq
    exact ⟨rfl, hignoreEq ▸ hignore, hcurveEq ▸ hcurve⟩

structure QueriedComplete (s : Queried) : Prop where
  sound : Sound s.controller
  complete : ∀ q, s.client = .asking q → Complete s.controller q

theorem QueriedComplete.next {e : QueryEvent} (hs : QueriedComplete s) (hok : Undisturbed s e)
    (h : nextQueried drv parse read s e = some s') : QueriedComplete s' := by
  rcases queried_cases h with
    ⟨ev, rfl, hnext, hclient⟩ | ⟨hsame, hclient⟩ | ⟨q, f, rest, hq, hleft, hreply⟩
  · refine ⟨hs.sound.next hnext, fun q hq => ?_⟩
    rw [hclient] at hq
    have hcomplete := hs.complete q hq
    refine ⟨hcomplete.asked, fun m hm => ?_⟩
    rw [listedAs_next hs.sound (hok q ev hq rfl) hnext]
    exact hcomplete.left m hm
  · rw [hsame.symm] at hclient
    refine ⟨hsame ▸ hs.sound, fun q hq => ?_⟩
    rcases hclient with hnone | hstart
    · cases hnone.symm.trans hq
    · obtain rfl := StatusClient.asking.inj (hstart.symm.trans hq)
      exact complete_start (hsame ▸ hs.sound)
  · have hsame := (receive_cases hreply).1
    refine ⟨hsame ▸ hs.sound, fun q' hq' => ?_⟩
    rw [hsame]
    exact (hs.complete q hq).receive hs.sound hleft hreply hq'

/-- **In every run in which no device is replaced while the client asks, it ends with one status for
each listed fan, in the order of the list and one that the listed fan can have.** -/
theorem status_shown (parse : Text → Bool × ControllerMsg) (drivers : Driver → Prop) (s : Queried)
    (h : Transition.ReachableWhen (statusSystem parse drivers) Undisturbed s) (q : StatusQuery)
    (hq : s.client = .asking q) (hleft : q.left = []) :
    List.Forall₂ Plausible q.statuses q.devices.fan := by
  have hs : QueriedComplete s := by
    apply Transition.ReachableWhen.invariant QueriedComplete ?_ ?_ h
    · rintro s ⟨hc, hclient⟩
      exact ⟨sound_of_reachable hc, fun q hq => by cases hclient.symm.trans hq⟩
    · rintro s e s' hs hok ⟨drv, read, -, hnext⟩
      exact hs.next hok hnext
  obtain ⟨asked, hasked, hrows⟩ := (hs.complete q hq).asked
  rw [hleft, List.append_nil] at hasked
  rwa [hasked]

theorem status_shown_case : ∃ q : StatusQuery,
    q.statuses.map (fun t => (t.label, t.status)) = [("case", .disabled)] ∧
    List.Forall₂ Plausible q.statuses (getDevices (caseController "40: 800")).fan := by
  have hserve : ∀ s, Undisturbed s (.serve (.request (.disable "case"))) := by
    rintro s q ev - he
    obtain rfl := QueryEvent.serve.inj he
    rfl
  obtain ⟨c, q, hdevices, hleft, hstatuses, hq⟩ := queried_case
    (fun _ => by rintro q ev - ⟨⟩) hserve fun _ => by rintro q ev - ⟨⟩
  have hshown := status_shown _ _ _ hq q rfl hleft
  exact ⟨q, hstatuses, hdevices ▸ hshown⟩

end Service

end Fancon
