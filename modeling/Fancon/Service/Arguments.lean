import Fancon.Fan.Text

/-! # The command line

`read_args` writes the tokens in lower case, and matches each against `[\s-]*([\S]*)?[\s]*`. Whether
a group that takes no character counts as matched differs between implementations of `std::regex`,
so it is a parameter. `Client::run` carries out the first option it asks for.
-/
set_option autoImplicit false
set_option maxHeartbeats 250000
set_option maxRecDepth 120000

namespace Fancon

/-! ## `Args` -/

/-- The members of `Args`, in the order of `from_key`. -/
inductive ArgName
  | help
  | status
  | enable
  | disable
  | test
  | force
  | monitor
  | reload
  | config
  | service
  | daemon
  | stopService
  | sysinfo
  | recover
  | nvInit
  | verbose
  | trace
deriving DecidableEq

namespace ArgName

def all : List ArgName :=
  [help, status, enable, disable, test, force, monitor, reload, config, service, daemon,
    stopService, sysinfo, recover, nvInit, verbose, trace]

def key : ArgName → Text
  | help => "help".toList
  | status => "status".toList
  | enable => "enable".toList
  | disable => "disable".toList
  | test => "test".toList
  | force => "force".toList
  | monitor => "monitor".toList
  | reload => "reload".toList
  | config => "config".toList
  | service => "service".toList
  | daemon => "daemon".toList
  | stopService => "stop-service".toList
  | sysinfo => "sysinfo".toList
  | recover => "recover".toList
  | nvInit => "nv-init".toList
  | verbose => "verbose".toList
  | trace => "trace".toList

def shortKey : ArgName → Text
  | help => ['h']
  | status => ['s']
  | enable => ['e']
  | disable => ['d']
  | test => ['t']
  | force => ['f']
  | monitor => ['m']
  | reload => ['r']
  | config => ['c']
  | sysinfo => ['i']
  | verbose => ['v']
  | trace => ['a']
  | service | daemon | stopService | recover | nvInit => []

def potentialValue : ArgName → Bool
  | enable | disable | test | monitor | config | sysinfo => true
  | _ => false

def needsValue : ArgName → Bool
  | config | sysinfo => true
  | _ => false

/-- `from_key.find`. -/
def fromKey (s : Text) : Option ArgName := all.find? fun a => decide (a.key = s)

/-- `short_to_key.find`. -/
def shortToKey (s : Text) : Option Text :=
  (all.find? fun a => decide (a.shortKey ≠ [] ∧ a.shortKey = s)).map key

/-- The option that a text is the key or the short key of. -/
def lookup (s : Text) : Option ArgName := fromKey ((shortToKey s).getD s)

theorem fromKey_key (a : ArgName) : fromKey a.key = some a := by
  cases a <;> decide

/-- A text that names no option is not a short key either. -/
theorem shortToKey_of_lookup {s : Text} (h : lookup s = none) : shortToKey s = none := by
  cases hs : shortToKey s with
  | none => rfl
  | some k =>
    obtain ⟨a, -, rfl⟩ := Option.map_eq_some_iff.mp hs
    rw [lookup, hs, Option.getD_some, fromKey_key] at h
    cases h

end ArgName

/-- The fields of an `Arg` that change. -/
structure ArgState where
  value : Text := []
  triggered : Bool := false
deriving DecidableEq

abbrev Args := ArgName → ArgState

def Args.initial : Args
  | .config => ⟨"/etc/fancon.conf".toList, true⟩
  | .sysinfo => ⟨"sysinfo.txt".toList, false⟩
  | _ => {}

namespace Args

variable (args : Args) (a : ArgName)

def trigger : Args := Function.update args a { args a with triggered := true }

def setValue (value : Text) : Args := Function.update args a { args a with value := value }

/-- An option that needs a value and has none is not triggered. -/
def checkNeedsValue : Args :=
  if a.needsValue && (args a).value.isEmpty then
    Function.update args a { args a with triggered := false }
  else args

theorem value_trigger (b : ArgName) : (args.trigger a b).value = (args b).value := by
  unfold trigger
  by_cases h : b = a
  · subst h
    rw [Function.update_self]
  · rw [Function.update_of_ne h]

theorem value_checkNeedsValue (b : ArgName) :
    (args.checkNeedsValue a b).value = (args b).value := by
  unfold checkNeedsValue
  split_ifs
  · by_cases h : b = a
    · subst h
      rw [Function.update_self]
    · rw [Function.update_of_ne h]
  · rfl

theorem value_setValue_self (value : Text) : (args.setValue a value a).value = value := by
  rw [setValue, Function.update_self]

theorem value_setValue_of_ne {b : ArgName} (h : b ≠ a) (value : Text) :
    (args.setValue a value b).value = (args b).value := by
  rw [setValue, Function.update_of_ne h]

end Args

/-! ## `read_args` -/

/-- `tolower` of every character. -/
def lower (s : Text) : Text := s.map Char.toLower

/-- `[\s-]`. -/
def isLead (c : Char) : Bool := isSpace c || c == '-'

/-- `rmatch`, of a token: the text it stands for, and the option that this names. -/
def rmatch (emptyGroup : Bool) (s : Text) : Text × Option ArgName :=
  let group := (s.dropWhile isLead).takeWhile fun c => !isSpace c
  if ((s.dropWhile isLead).dropWhile fun c => !isSpace c).all isSpace then
    if group = [] ∧ emptyGroup = false then (s, none)
    else
      let argStr := (ArgName.shortToKey group).getD group
      (argStr, ArgName.fromKey argStr)
  else ([], none)

/-- The loop over the tokens. -/
def readLoop (emptyGroup : Bool) : List Text → Args → Args
  | [], args => args
  | s :: rest, args =>
    match (rmatch emptyGroup s).2 with
    | none => readLoop emptyGroup rest args
    | some a =>
      if a.potentialValue then
        match rest with
        | [] => (args.trigger a).checkNeedsValue a
        | v :: rest =>
          match (rmatch emptyGroup v).2 with
          | none =>
            readLoop emptyGroup rest ((args.trigger a).setValue a (rmatch emptyGroup v).1)
          | some _ => readLoop emptyGroup (v :: rest) ((args.trigger a).checkNeedsValue a)
      else readLoop emptyGroup rest (args.trigger a)

def readArgs (emptyGroup : Bool) (argv : List Text) : Args :=
  readLoop emptyGroup (argv.map lower) .initial

/-! ## `Client::run` -/

/-- What the client is asked to do. -/
inductive ClientCall
  | unavailable
  | printHelp
  | status
  | enable (label : Text)
  | enableAll
  | disable (label : Text)
  | disableAll
  | test (label : Text)
  | testAll (forced : Bool)
  | monitor (label : Text)
  | reload
  | stopService
  | recover
  | nvInit
  | sysinfo (path : Text)
  | offerTest (forced : Bool)
deriving DecidableEq

/-- `Client::run`, given whether the service answers and whether a test is offered for want of a
config. -/
def clientRun (connected offers : Bool) (args : Args) : ClientCall :=
  let on a := (args a).triggered
  let value a := (args a).value
  if (on .status || on .disable || on .test || on .reload || on .stopService || on .nvInit ||
      on .sysinfo) && !connected then .unavailable
  else if on .help then .printHelp
  else if on .status then .status
  else if on .enable then if value .enable ≠ [] then .enable (value .enable) else .enableAll
  else if on .disable then
    if value .disable ≠ [] then .disable (value .disable) else .disableAll
  else if on .test then
    if value .test ≠ [] then .test (value .test) else .testAll (on .force)
  else if on .monitor then .monitor (value .monitor)
  else if on .reload then .reload
  else if on .stopService then .stopService
  else if on .recover then .recover
  else if on .nvInit then .nvInit
  else if on .sysinfo then .sysinfo (value .sysinfo)
  else if offers then .offerTest (on .force)
  else .printHelp

/-- The option whose operation is carried out on all fans; `monitor` leaves out no fan if it has
no label. -/
def ClientCall.onAllFans : ClientCall → Option ArgName
  | enableAll => some .enable
  | disableAll => some .disable
  | testAll _ => some .test
  | monitor [] => some .monitor
  | _ => none

/-- The call is carried out on all fans only for an option without a value. -/
def ClientCall.Addressed (args : Args) (call : ClientCall) : Prop :=
  ∀ a, call.onAllFans = some a → (args a).value = []

theorem ClientCall.Addressed.of_label {args : Args} {a : ArgName} {one all : ClientCall}
    (hone : one.onAllFans = none) (hall : all.onAllFans = some a) :
    (if (args a).value ≠ [] then one else all).Addressed args := by
  intro b hb
  split_ifs at hb with hvalue
  · rw [hone] at hb
    cases hb
  · rw [hall] at hb
    obtain rfl := Option.some.inj hb
    exact not_not.mp hvalue

theorem ClientCall.Addressed.monitor (args : Args) :
    (ClientCall.monitor (args .monitor).value).Addressed args := by
  intro b hb
  cases hvalue : (args .monitor).value with
  | nil =>
    rw [hvalue] at hb
    obtain rfl := Option.some.inj hb
    exact hvalue
  | cons c s =>
    rw [hvalue] at hb
    cases hb

/-- What the client is asked to do is addressed to all fans only if the option has no value. -/
theorem addressed_clientRun (connected offers : Bool) (args : Args) :
    (clientRun connected offers args).Addressed args := by
  unfold clientRun
  dsimp only
  refine iteInduction (fun _ => nofun) fun _ => ?_
  refine iteInduction (fun _ => nofun) fun _ => ?_
  refine iteInduction (fun _ => nofun) fun _ => ?_
  refine iteInduction (fun _ => .of_label rfl rfl) fun _ => ?_
  refine iteInduction (fun _ => .of_label rfl rfl) fun _ => ?_
  refine iteInduction (fun _ => .of_label rfl rfl) fun _ => ?_
  refine iteInduction (fun _ => .monitor args) fun _ => ?_
  refine iteInduction (fun _ => nofun) fun _ => ?_
  refine iteInduction (fun _ => nofun) fun _ => ?_
  refine iteInduction (fun _ => nofun) fun _ => ?_
  refine iteInduction (fun _ => nofun) fun _ => ?_
  refine iteInduction (fun _ => nofun) fun _ => ?_
  exact iteInduction (fun _ => nofun) fun _ => nofun

end Fancon
