import Fancon.Controller.Restart

/-! # The maps of device pointers

`devices.fans` holds `unique_ptr`s and `devices.sensors` `shared_ptr`s. Here the maps are read as
maps of pointers: a device that is moved to another map leaves a null pointer behind, and what
follows a null pointer does not go on. No pointer of the controller's maps is ever null, each is
stored under the label of its device and no hardware id is stored twice (`device_maps_stored`).
The maps of `Controller` are what these pointers point to, and no operation of it that returns
follows a null pointer (`pointers_follow`).
-/
set_option autoImplicit false
set_option maxHeartbeats 250000
set_option maxRecDepth 120000

namespace Fancon

open KeyedMerge Controller

/-- A map from labels to `unique_ptr` or `shared_ptr`; the null pointer is `none`. -/
abbrev PointerMap (D : Type) := UnorderedMap String (Option D)

section

variable {D : Type} (hwId : D → String) (deepEqual : D → D → Bool)

/-- The `find_if` of `merge`, and whether it follows no null pointer on its way. -/
def findHwId (i : String) :
    List (Sigma fun _ : String => Option D) → Option (Option (String × D))
  | [] => some none
  | ⟨_, none⟩ :: _ => none
  | ⟨l, some x⟩ :: rest => if hwId x == i then some (some (l, x)) else findHwId i rest

/-- The body of the loop of `merge`, on the source and the destination. A fan that replaces one is
re-inserted whatever the status of that one is. -/
def moveDevice (replaceOnMatch deepCmp : Bool) (s : PointerMap D × PointerMap D) (key : String) :
    Option (PointerMap D × PointerMap D) :=
  match s.1.find? key with
  | some (some dev) =>
    (findHwId hwId (hwId dev) s.2.entries).map fun
      | some old =>
        if replaceOnMatch && (!deepCmp || !deepEqual dev old.2) then
          (s.1.insertOrAssign key none, (s.2.remove old.1).emplace key (some dev))
        else s
      | none => (s.1.insertOrAssign key none, s.2.emplace key (some dev))
  | _ => none

def moveDevices (replaceOnMatch deepCmp : Bool) (src dst : PointerMap D) :
    Option (PointerMap D × PointerMap D) :=
  src.keys.foldlM (moveDevice hwId deepEqual replaceOnMatch deepCmp) (src, dst)

/-- A loop of `remove_devices_not_in`: it does not go on behind an entry that it erases. -/
def removeNotIn (listed : String → Bool) (m : PointerMap D) : Option (PointerMap D) :=
  m.keys.foldlM (fun m l => if listed l then some m else none) m

end

/-- `Devices`, as it holds its devices. -/
structure DevicePointers where
  fans : PointerMap Fan := .empty
  sensors : PointerMap Sensor := .empty

/-- New devices: each comes from `make_unique` or `make_shared`. -/
def Devices.pointers (d : Devices) : DevicePointers :=
  ⟨d.fans.mapValues some, d.sensors.mapValues some⟩

namespace DevicePointers

/-- `merge`; the second result is what is left of the merged devices. -/
def merge (p d : DevicePointers) (replaceOnMatch deepCmp : Bool) :
    Option (DevicePointers × DevicePointers) :=
  (moveDevices Fan.hwId Fan.deepEqual replaceOnMatch deepCmp d.fans p.fans).bind fun fans =>
  (moveDevices Sensor.hwId Sensor.deepEqual replaceOnMatch deepCmp d.sensors p.sensors).map
    fun sensors => (⟨fans.2, sensors.2⟩, ⟨fans.1, sensors.1⟩)

def removeDevicesNotIn (ds : List DevicePointers) (p : DevicePointers) : Option DevicePointers :=
  (removeNotIn (fun l => ds.any fun d => d.fans.contains l) p.fans).bind fun fans =>
  (removeNotIn (fun l => ds.any fun d => d.sensors.contains l) p.sensors).map fun sensors =>
  ⟨fans, sensors⟩

def reload (env : Env) (parse : Text → Bool × ControllerMsg) (found : Found) (file : Option Text)
    (p : DevicePointers) : Option DevicePointers :=
  (p.merge (Devices.enumerate found).pointers false false).bind fun (p, enumerated) =>
  match readConfig parse file with
  | some msg =>
    (p.merge (Devices.load env msg.devices).pointers true true).bind fun (p, confDevs) =>
    p.removeDevicesNotIn [enumerated, confDevs]
  | none => p.removeDevicesNotIn [enumerated]

/-- What is done to the maps. `write` is a change of a fan that keeps its label and hardware id,
as a test makes it. -/
inductive Act
  | reload (env : Env) (found : Found) (file : Option Text)
  | setDevices (env : Env) (d : DevicesMsg)
  | write (label : String) (f : Fan)

def perform (parse : Text → Bool × ControllerMsg) (p : DevicePointers) :
    Act → Option DevicePointers
  | .reload env found file => p.reload env parse found file
  | .setDevices env d => some (Devices.load env d).pointers
  | .write l f =>
    match p.fans.find? l with
    | some (some g) =>
      if g.label = f.label ∧ g.hwId = f.hwId then
        some { p with fans := p.fans.insertOrAssign l (some f) }
      else some p
    | some none => none
    | none => some p

/-- The constructor of the controller starts with a `reload` on no devices. -/
def system (parse : Text → Bool × ControllerMsg) : Transition.System DevicePointers Act :=
  Transition.ofStep {} (perform parse)

end DevicePointers

/-! ## What is claimed -/

/-- The pointers of a map are not null, each device is stored under its own label, and no two have
one hardware id. -/
structure Stored {D : Type} (label hwId : D → String) (m : PointerMap D) : Prop where
  nonNull : ∀ l p, m.find? l = some p → p ≠ none
  labelled : ∀ l x, m.find? l = some (some x) → label x = l
  hwIds : ∀ k l x y, m.find? k = some (some x) → m.find? l = some (some y) →
    hwId x = hwId y → k = l

/-! ## One device -/

section

variable {D M : Type} {hwId label : D → String} {deepEqual : D → D → Bool} {save : D → M}
  {ident : M → String}

/-- The messages of what the pointers point to. -/
def pointed (save : D → M) (m : PointerMap D) : Store String M := fun l =>
  (m.find? l).join.map save

def NonNull (m : PointerMap D) : Prop := ∀ l p, m.find? l = some p → p ≠ none

theorem pointed_eq_some {m : PointerMap D} {l : String} {w : M} :
    pointed save m l = some w ↔ ∃ x, m.find? l = some (some x) ∧ save x = w := by
  simp [pointed, Option.join_eq_some_iff]

theorem NonNull.pointed_eq_none {m : PointerMap D} (h : NonNull m) {l : String} :
    pointed save m l = none ↔ m.find? l = none := by
  rw [pointed, Option.map_eq_none_iff]
  cases hl : m.find? l with
  | none => simp
  | some p =>
    obtain ⟨x, rfl⟩ := Option.ne_none_iff_exists'.mp (h l p hl)
    simp

theorem NonNull.emplace {m : PointerMap D} (h : NonNull m) (l : String) (x : D) :
    NonNull (m.emplace l (some x)) := by
  intro k p hp
  rcases (putsUnder_emplace fun _ : Option D => l).mem m (some x) k p hp with ⟨-, rfl⟩ | hp
  · exact nofun
  · exact h k p hp

theorem NonNull.remove {m : PointerMap D} (h : NonNull m) (l : String) : NonNull (m.remove l) := by
  intro k p hp
  rw [UnorderedMap.find?_remove] at hp
  split_ifs at hp
  exact h k p hp

theorem NonNull.pointed_emplace {m : PointerMap D} (h : NonNull m) (l : String) (x : D) :
    pointed save (m.emplace l (some x)) = place (pointed save m) l (save x) := by
  funext k
  cases hl : m.find? l with
  | none =>
    rw [place_of_free (h.pointed_eq_none.mpr hl), pointed, UnorderedMap.find?_emplace_of_none hl]
    by_cases hk : k = l
    · rw [if_pos hk, hk, Function.update_self]
      rfl
    · rw [if_neg hk, Function.update_of_ne hk]
      rfl
  | some p =>
    obtain ⟨y, rfl⟩ := Option.ne_none_iff_exists'.mp (h l p hl)
    rw [place_of_taken (pointed_eq_some.mpr ⟨y, hl, rfl⟩), UnorderedMap.emplace_of_some hl]

theorem pointed_remove (m : PointerMap D) (l : String) :
    pointed save (m.remove l) = drop (pointed save m) l := by
  funext k
  rw [pointed, UnorderedMap.find?_remove, drop]
  by_cases hk : k = l
  · rw [if_pos hk, hk, Function.update_self]
    rfl
  · rw [if_neg hk, Function.update_of_ne hk]
    rfl

/-- Without a null pointer the search ends, with the entry of the hardware id if there is one. -/
theorem findHwId_cases (i : String) {es : List (Sigma fun _ : String => Option D)}
    (h : ∀ e ∈ es, e.2 ≠ none) :
    (findHwId hwId i es = some none ∧ ∀ e ∈ es, ∀ x, e.2 = some x → hwId x ≠ i) ∨
    ∃ l x, findHwId hwId i es = some (some (l, x)) ∧ ⟨l, some x⟩ ∈ es ∧ hwId x = i := by
  induction es with
  | nil => exact Or.inl ⟨rfl, nofun⟩
  | cons e es ih =>
    obtain ⟨l, p⟩ := e
    obtain ⟨x, rfl⟩ := Option.ne_none_iff_exists'.mp (h ⟨l, p⟩ List.mem_cons_self)
    by_cases hid : hwId x = i
    · refine Or.inr ⟨l, x, ?_, List.mem_cons_self, hid⟩
      rw [findHwId, if_pos (beq_iff_eq.mpr hid)]
    · have hskip : findHwId hwId i (⟨l, some x⟩ :: es) = findHwId hwId i es := by
        rw [findHwId, if_neg (by simpa using hid)]
      rcases ih fun e he => h e (List.mem_cons_of_mem _ he) with
        ⟨hnone, hother⟩ | ⟨k, y, hy, hmem, hyid⟩
      · refine Or.inl ⟨hskip.trans hnone, fun e he y hy => ?_⟩
        rcases List.mem_cons.mp he with rfl | he
        · obtain rfl := Option.some.inj hy
          exact hid
        · exact hother e he y hy
      · exact Or.inr ⟨k, y, hskip.trans hy, List.mem_cons_of_mem _ hmem, hyid⟩

/-- The turn of a device that is still in the source follows no null pointer and makes none in the
destination; in the source it touches no other entry and keeps the keys. -/
theorem moveDevice_step (replaceOnMatch deepCmp : Bool) (hident : ∀ x, ident (save x) = hwId x)
    (hdeep : ∀ x y, deepEqual x y = true ↔ save x = save y) {src dst : PointerMap D}
    (hdst : NonNull dst) {key : String} {dev : D} (hkey : src.find? key = some (some dev)) :
    ∃ src' dst', moveDevice hwId deepEqual replaceOnMatch deepCmp (src, dst) key =
        some (src', dst') ∧
      (∀ k, k ≠ key → src'.find? k = src.find? k) ∧ (∀ k, src'.contains k = src.contains k) ∧
      NonNull dst' ∧ Step ident (ReplacesOnMatch replaceOnMatch deepCmp) (pointed save dst) key
        (save dev) (pointed save dst') := by
  have hother : ∀ k, k ≠ key → (src.insertOrAssign key none).find? k = src.find? k :=
    fun k hk => by rw [UnorderedMap.find?_insertOrAssign, if_neg hk]
  have hkeys : ∀ k, (src.insertOrAssign key none).contains k = src.contains k := by
    intro k
    rw [UnorderedMap.contains, UnorderedMap.contains, UnorderedMap.find?_insertOrAssign]
    split_ifs with hk
    · rw [hk, hkey]
      rfl
    · rfl
  have hentries : ∀ e ∈ dst.entries, e.2 ≠ none := fun e he =>
    hdst e.1 e.2 (UnorderedMap.mem_entries.mp he)
  unfold moveDevice
  simp only [hkey]
  rcases findHwId_cases (hwId dev) hentries with
    ⟨hnone, hnew⟩ | ⟨l, x, hfind, hmem, hid⟩
  · rw [hnone, Option.map_some]
    refine ⟨_, _, rfl, hother, hkeys, hdst.emplace key dev, ?_⟩
    rw [hdst.pointed_emplace]
    refine .add ?_
    rintro ⟨k, w, hw, hwid⟩
    obtain ⟨y, hy, rfl⟩ := pointed_eq_some.mp hw
    rw [hident, hident] at hwid
    exact hnew ⟨k, some y⟩ (UnorderedMap.mem_entries.mpr hy) y rfl hwid
  · have hx : pointed save dst l = some (save x) :=
      pointed_eq_some.mpr ⟨x, UnorderedMap.mem_entries.mp hmem, rfl⟩
    have hsame : ident (save x) = ident (save dev) := by rw [hident, hident, hid]
    have hrep : (replaceOnMatch && (!deepCmp || !deepEqual dev x)) = true ↔
        ReplacesOnMatch replaceOnMatch deepCmp (save dev) (save x) := by
      rw [ReplacesOnMatch, ne_eq, ← hdeep]
      cases replaceOnMatch <;> cases deepCmp <;> simp
    rw [hfind, Option.map_some]
    simp only
    split_ifs with hreplace
    · refine ⟨_, _, rfl, hother, hkeys, (hdst.remove l).emplace key dev, ?_⟩
      rw [(hdst.remove l).pointed_emplace, pointed_remove]
      exact .move hx hsame (hrep.mp hreplace)
    · exact ⟨_, _, rfl, fun _ _ => rfl, fun _ => rfl, hdst,
        .keep hx hsame fun h => hreplace (hrep.mpr h)⟩

/-! ## All devices -/

theorem moveDevices_loop (replaceOnMatch deepCmp : Bool) (hident : ∀ x, ident (save x) = hwId x)
    (hdeep : ∀ x y, deepEqual x y = true ↔ save x = save y)
    {es : List (Sigma fun _ : String => D)} (hes : (es.map Sigma.fst).Nodup)
    {src dst : PointerMap D} (hsrc : ∀ e ∈ es, src.find? e.1 = some (some e.2))
    (hdst : NonNull dst) :
    ∃ src' dst', (es.map Sigma.fst).foldlM (moveDevice hwId deepEqual replaceOnMatch deepCmp)
        (src, dst) = some (src', dst') ∧
      (∀ k, src'.contains k = src.contains k) ∧ NonNull dst' ∧
      Steps ident (ReplacesOnMatch replaceOnMatch deepCmp) (pointed save dst)
        (es.map fun e => (e.1, save e.2)) (pointed save dst') := by
  induction es generalizing src dst with
  | nil => exact ⟨src, dst, rfl, fun _ => rfl, hdst, .nil⟩
  | cons e es ih =>
    obtain ⟨hnot, hes⟩ := List.nodup_cons.mp hes
    obtain ⟨src₁, dst₁, hturn, hother, hkeys, hdst₁, hstep⟩ :=
      moveDevice_step replaceOnMatch deepCmp hident hdeep hdst (hsrc e List.mem_cons_self)
    have hsrc₁ : ∀ e' ∈ es, src₁.find? e'.1 = some (some e'.2) := by
      intro e' he'
      rw [hother e'.1 fun heq => hnot (List.mem_map.mpr ⟨e', he', heq⟩)]
      exact hsrc e' (List.mem_cons_of_mem _ he')
    obtain ⟨src₂, dst₂, hrest, hkeys', hdst₂, hsteps⟩ := ih hes hsrc₁ hdst₁
    refine ⟨src₂, dst₂, ?_, fun k => (hkeys' k).trans (hkeys k), hdst₂, .cons hstep hsteps⟩
    rw [List.map_cons, List.foldlM_cons, hturn]
    exact hrest

/-- The loop of `merge` over new devices follows no null pointer and is a merge by identity. -/
theorem moveDevices_steps (replaceOnMatch deepCmp : Bool) (hident : ∀ x, ident (save x) = hwId x)
    (hdeep : ∀ x y, deepEqual x y = true ↔ save x = save y) (m : UnorderedMap String D)
    {dst : PointerMap D} (hdst : NonNull dst) :
    ∃ src' dst', moveDevices hwId deepEqual replaceOnMatch deepCmp (m.mapValues some) dst =
        some (src', dst') ∧
      (∀ k, src'.contains k = m.contains k) ∧ NonNull dst' ∧
      Steps ident (ReplacesOnMatch replaceOnMatch deepCmp) (pointed save dst) (messages save m)
        (pointed save dst') := by
  have hsrc : ∀ e ∈ m.entries, (m.mapValues some).find? e.1 = some (some e.2) := by
    intro e he
    rw [UnorderedMap.find?_mapValues, UnorderedMap.mem_entries.mp he, Option.map_some]
  obtain ⟨src', dst', hloop, hkeys, hdst', hsteps⟩ :=
    moveDevices_loop replaceOnMatch deepCmp hident hdeep m.keys_nodup hsrc hdst
  refine ⟨src', dst', ?_, fun k => ?_, hdst', hsteps⟩
  · unfold moveDevices
    rw [UnorderedMap.keys_mapValues]
    exact hloop
  · rw [hkeys, UnorderedMap.contains, UnorderedMap.find?_mapValues, Option.isSome_map]
    rfl

theorem removeNotIn_eq_some {listed : String → Bool} {m m' : PointerMap D} :
    removeNotIn listed m = some m' ↔ (∀ l, m.contains l = true → listed l = true) ∧ m' = m := by
  have hturn : ∀ (s : PointerMap D) (l : String) (s' : PointerMap D),
      (if listed l then some s else none) = some s' ↔ listed l = true ∧ s' = s := by
    intro s l s'
    split_ifs with hl
    · rw [Option.some_inj, and_iff_right hl, eq_comm]
    · exact iff_of_false nofun fun h => hl h.1
  rw [removeNotIn, Loop.foldlM_eq_some_of_stays hturn]
  refine and_congr_left fun _ => forall_congr' fun l => ?_
  rw [UnorderedMap.mem_keys_iff, UnorderedMap.contains_iff]

theorem nonNull_new (m : UnorderedMap String D) : NonNull (m.mapValues some) := by
  intro l p hp
  rw [UnorderedMap.find?_mapValues] at hp
  obtain ⟨x, -, rfl⟩ := Option.map_eq_some_iff.mp hp
  exact nofun

theorem pointed_new (m : UnorderedMap String D) :
    pointed save (m.mapValues some) = view save m := by
  funext l
  rw [pointed, UnorderedMap.find?_mapValues, view]
  cases m.find? l <;> rfl

/-! ## What every operation keeps -/

/-- A map of pointers, by the messages of its devices. -/
structure Tidy (save : D → M) (ident label : M → String) (m : PointerMap D) : Prop where
  nonNull : NonNull m
  labels : LabelledBy label (pointed save m)
  distinct : Distinct ident (pointed save m)

variable {labelOf : M → String}

theorem Tidy.stored {m : PointerMap D} (h : Tidy save ident labelOf m)
    (hident : ∀ x, ident (save x) = hwId x) (hlabel : ∀ x, labelOf (save x) = label x) :
    Stored label hwId m where
  nonNull := h.nonNull
  labelled l x hx := by
    rw [← hlabel]
    exact h.labels l (save x) (pointed_eq_some.mpr ⟨x, hx, rfl⟩)
  hwIds k l x y hx hy heq := by
    refine h.distinct k l (save x) (save y) (pointed_eq_some.mpr ⟨x, hx, rfl⟩)
      (pointed_eq_some.mpr ⟨y, hy, rfl⟩) ?_
    rw [hident, hident, heq]

theorem Tidy.steps {replaceOnMatch deepCmp : Bool} {m n : PointerMap D}
    {src : UnorderedMap String D} (h : Tidy save ident labelOf m) (hn : NonNull n)
    (hsteps : Steps ident (ReplacesOnMatch replaceOnMatch deepCmp) (pointed save m)
      (messages save src) (pointed save n)) (hsrc : LabelledBy labelOf (view save src)) :
    Tidy save ident labelOf n where
  nonNull := hn
  labels := hsteps.all h.labels (label_of_mem_messages hsrc)
  distinct := hsteps.distinct h.distinct

theorem tidy_new {m : UnorderedMap String D} (hident : ∀ x, ident (save x) = hwId x)
    (hlabels : LabelledBy labelOf (view save m)) (hdistinct : DistinctHwIds hwId m) :
    Tidy save ident labelOf (m.mapValues some) where
  nonNull := nonNull_new m
  labels := by
    rw [pointed_new]
    exact hlabels
  distinct := by
    rw [pointed_new]
    exact (distinct_view hident).mpr hdistinct

end

namespace DevicePointers

variable {drv : Driver} {parse : Text → Bool × ControllerMsg} {p p' : DevicePointers}
  {c c' : Controller}

/-- The maps of pointers and what they point to in the controller's maps. -/
structure Follows (c : Controller) (p : DevicePointers) : Prop where
  fans : pointed Fan.save p.fans = view Fan.save c.devices.fans
  sensors : pointed Sensor.save p.sensors = view Sensor.save c.devices.sensors

structure Valid (p : DevicePointers) : Prop where
  fans : Tidy Fan.save FanMsg.hwId FanMsg.label p.fans
  sensors : Tidy Sensor.save SensorMsg.hwId SensorMsg.label p.sensors

/-! ## `merge` and `remove_devices_not_in` -/

theorem fan_deepEqual_iff (f g : Fan) : f.deepEqual g = true ↔ f.save = g.save :=
  decide_eq_true_iff

theorem sensor_deepEqual_iff (s t : Sensor) : s.deepEqual t = true ↔ s.save = t.save :=
  decide_eq_true_iff

/-- New devices are merged without following a null pointer. -/
theorem Valid.merge (hp : p.Valid) {d : Devices}
    (hfans : LabelledBy FanMsg.label (view Fan.save d.fans))
    (hsensors : LabelledBy SensorMsg.label (view Sensor.save d.sensors))
    (replaceOnMatch deepCmp : Bool) :
    ∃ p' d', p.merge d.pointers replaceOnMatch deepCmp = some (p', d') ∧
      (∀ l, d'.fans.contains l = d.fans.contains l) ∧
      (∀ l, d'.sensors.contains l = d.sensors.contains l) ∧ p'.Valid ∧
      ∀ drv c c', Follows c p → c.merge drv d replaceOnMatch deepCmp = some c' →
        Follows c' p' := by
  obtain ⟨fansLeft, fans, hmove, hkeys, hnonNull, hsteps⟩ :=
    moveDevices_steps replaceOnMatch deepCmp Fan.hwId_save fan_deepEqual_iff d.fans
      hp.fans.nonNull
  obtain ⟨sensorsLeft, sensors, hmove', hkeys', hnonNull', hsteps'⟩ :=
    moveDevices_steps replaceOnMatch deepCmp Sensor.hwId_save sensor_deepEqual_iff d.sensors
      hp.sensors.nonNull
  refine ⟨⟨fans, sensors⟩, ⟨fansLeft, sensorsLeft⟩, ?_, hkeys, hkeys',
    ⟨hp.fans.steps hnonNull hsteps hfans, hp.sensors.steps hnonNull' hsteps' hsensors⟩,
    fun drv c c' hc hmerge => ?_⟩
  · simp only [DevicePointers.merge, Devices.pointers, hmove, Option.bind_some, hmove',
      Option.map_some]
  · obtain ⟨-, hcfans, hcsensors⟩ := merge_steps hmerge
    rw [← hc.fans] at hcfans
    rw [← hc.sensors] at hcsensors
    exact ⟨hsteps.unique hcfans hp.fans.distinct, hsteps'.unique hcsensors hp.sensors.distinct⟩

theorem removeDevicesNotIn_eq_some {ds : List DevicePointers} :
    p.removeDevicesNotIn ds = some p' ↔
      (∀ l, p.fans.contains l = true → (ds.any fun d => d.fans.contains l) = true) ∧
      (∀ l, p.sensors.contains l = true → (ds.any fun d => d.sensors.contains l) = true) ∧
      p' = p := by
  constructor
  · intro h
    obtain ⟨fans, hfans, hloop⟩ := Option.bind_eq_some_iff.mp h
    obtain ⟨sensors, hsensors, rfl⟩ := Option.map_eq_some_iff.mp hloop
    obtain ⟨hlisted, rfl⟩ := removeNotIn_eq_some.mp hfans
    obtain ⟨hlisted', rfl⟩ := removeNotIn_eq_some.mp hsensors
    exact ⟨hlisted, hlisted', rfl⟩
  · rintro ⟨hlisted, hlisted', rfl⟩
    rw [removeDevicesNotIn, removeNotIn_eq_some.mpr ⟨hlisted, rfl⟩, Option.bind_some,
      removeNotIn_eq_some.mpr ⟨hlisted', rfl⟩]
    rfl

theorem contains_of_pointed {D M : Type} {save : D → M} {q : PointerMap D}
    {m : UnorderedMap String D} (hq : NonNull q) (h : pointed save q = view save m) {l : String}
    (hl : q.contains l = true) : m.contains l = true := by
  obtain ⟨y, hy⟩ := UnorderedMap.contains_iff.mp hl
  obtain ⟨x, rfl⟩ := Option.ne_none_iff_exists'.mp (hq l y hy)
  exact contains_iff_view.mpr ⟨save x, h ▸ pointed_eq_some.mpr ⟨x, hy, rfl⟩⟩

/-- The pointers have nothing to remove if the controller has not. -/
theorem Follows.removeDevicesNotIn (h : Follows c p) (hp : p.Valid) {ds : List Devices}
    {left : List DevicePointers}
    (hfans : ∀ l, (left.any fun d => d.fans.contains l) = ds.any fun d => d.fans.contains l)
    (hsensors : ∀ l, (left.any fun d => d.sensors.contains l) =
      ds.any fun d => d.sensors.contains l)
    (hremove : Controller.removeDevicesNotIn drv ds c = some c') :
    p.removeDevicesNotIn left = some p := by
  obtain ⟨hlisted, hlisted', -⟩ := Controller.removeDevicesNotIn_eq_some.mp hremove
  refine removeDevicesNotIn_eq_some.mpr ⟨fun l hl => ?_, fun l hl => ?_, rfl⟩
  · rw [hfans]
    exact hlisted l (contains_of_pointed hp.fans.nonNull h.fans hl)
  · rw [hsensors]
    exact hlisted' l (contains_of_pointed hp.sensors.nonNull h.sensors hl)

/-! ## `reload` and `set_devices` -/

theorem Valid.reload (hp : p.Valid) {env : Env} {found : Found} {file : Option Text}
    (h : p.reload env parse found file = some p') : p'.Valid := by
  obtain ⟨p₁, enumerated, hmerge, -, -, hp₁, -⟩ :=
    hp.merge (labelledBy_freshFans (Devices.fresh_enumerate found)) labelledBy_enumeratedSensors
      false false
  unfold DevicePointers.reload at h
  rw [hmerge, Option.bind_some] at h
  cases hmsg : readConfig parse file with
  | none =>
    simp only [hmsg] at h
    obtain ⟨-, -, rfl⟩ := removeDevicesNotIn_eq_some.mp h
    exact hp₁
  | some msg =>
    obtain ⟨p₂, confDevs, hmerge₂, -, -, hp₂, -⟩ :=
      hp₁.merge (labelledBy_freshFans (Devices.fresh_load env msg.devices))
        (labelledBy_loadedSensors msg.devices) true true
    simp only [hmsg, hmerge₂, Option.bind_some] at h
    obtain ⟨-, -, rfl⟩ := removeDevicesNotIn_eq_some.mp h
    exact hp₂

/-- Where the controller's reload returns, that of the pointers does. -/
theorem Follows.reload (h : Follows c p) (hp : p.Valid) {env : Env} {found : Found}
    {file : Option Text}
    (hreload : c.reload drv env parse (Devices.enumerate found) file = some c') :
    ∃ p', p.reload env parse found file = some p' ∧ Follows c' p' := by
  obtain ⟨p₁, enumerated, hmerge, hkeys, hkeys', hp₁, hfollows⟩ :=
    hp.merge (labelledBy_freshFans (Devices.fresh_enumerate found)) labelledBy_enumeratedSensors
      false false
  obtain ⟨c₁, h₁, ⟨hmsg, rfl, hremove⟩ | ⟨msg, hmsg, h₂, hremove⟩⟩ := reload_parts hreload
  · have hc₁ := hfollows drv c c' h h₁
    refine ⟨p₁, ?_, hc₁⟩
    simp only [DevicePointers.reload, hmerge, Option.bind_some, hmsg]
    exact hc₁.removeDevicesNotIn hp₁ (by simp [hkeys]) (by simp [hkeys']) hremove
  · obtain ⟨p₂, confDevs, hmerge₂, hkeys₂, hkeys₂', hp₂, hfollows₂⟩ :=
      hp₁.merge (labelledBy_freshFans (Devices.fresh_load env msg.devices))
        (labelledBy_loadedSensors msg.devices) true true
    have hc₁ : Follows { c₁ with settings := c₁.settings.load msg.config } p₁ :=
      ⟨(hfollows drv c c₁ h h₁).fans, (hfollows drv c c₁ h h₁).sensors⟩
    have hc₂ := hfollows₂ drv _ c' hc₁ h₂
    refine ⟨p₂, ?_, hc₂⟩
    simp only [DevicePointers.reload, hmerge, Option.bind_some, hmsg, hmerge₂]
    exact hc₂.removeDevicesNotIn hp₂ (by simp [hkeys, hkeys₂]) (by simp [hkeys', hkeys₂']) hremove

theorem valid_load (env : Env) (d : DevicesMsg) : (Devices.load env d).pointers.Valid where
  fans := tidy_new Fan.hwId_save (labelledBy_freshFans (Devices.fresh_load env d))
    (distinct_load_fans env d)
  sensors := tidy_new Sensor.hwId_save (labelledBy_loadedSensors d) (distinct_load_sensors env d)

theorem valid_start : Valid {} where
  fans := ⟨(fun _ _ h => nomatch h), (fun _ _ h => nomatch h), fun _ _ _ _ h => nomatch h⟩
  sensors := ⟨(fun _ _ h => nomatch h), (fun _ _ h => nomatch h), fun _ _ _ _ h => nomatch h⟩

/-- A fan that is written through its pointer keeps its place. -/
theorem pointed_write {l : String} {f : Fan} :
    pointed Fan.save (p.fans.insertOrAssign l (some f)) =
      Function.update (pointed Fan.save p.fans) l (some f.save) := by
  funext k
  rw [pointed, UnorderedMap.find?_insertOrAssign]
  by_cases hk : k = l
  · rw [if_pos hk, hk, Function.update_self]
    rfl
  · rw [if_neg hk, Function.update_of_ne hk]
    rfl

theorem Valid.write (hp : p.Valid) {l : String} {f g : Fan}
    (hg : p.fans.find? l = some (some g)) (hlabel : g.label = f.label) (hid : g.hwId = f.hwId) :
    Valid { p with fans := p.fans.insertOrAssign l (some f) } := by
  have hl : pointed Fan.save p.fans l = some g.save := pointed_eq_some.mpr ⟨g, hg, rfl⟩
  have hback : ∀ k w, pointed Fan.save (p.fans.insertOrAssign l (some f)) k = some w →
      ∃ v, pointed Fan.save p.fans k = some v ∧ v.hwId = w.hwId ∧ v.label = w.label := by
    intro k w hw
    rw [pointed_write] at hw
    by_cases hk : k = l
    · subst hk
      rw [Function.update_self] at hw
      obtain rfl := Option.some.inj hw
      refine ⟨g.save, hl, ?_, ?_⟩
      · rw [Fan.hwId_save, Fan.hwId_save, hid]
      · rw [Fan.label_save, Fan.label_save, hlabel]
    · rw [Function.update_of_ne hk] at hw
      exact ⟨w, hw, rfl, rfl⟩
  refine ⟨⟨fun k q hq => ?_, fun k w hw => ?_, fun j k v w hv hw hvw => ?_⟩, hp.sensors⟩
  · rw [UnorderedMap.find?_insertOrAssign] at hq
    split_ifs at hq
    · obtain rfl := Option.some.inj hq
      exact Option.some_ne_none f
    · exact hp.fans.nonNull k q hq
  · obtain ⟨v, hv, -, hvlabel⟩ := hback k w hw
    exact hvlabel.symm.trans (hp.fans.labels k v hv)
  · obtain ⟨v', hv', hvid, -⟩ := hback j v hv
    obtain ⟨w', hw', hwid, -⟩ := hback k w hw
    exact hp.fans.distinct j k v' w' hv' hw' (hvid.trans (hvw.trans hwid.symm))

/-! ## Every run -/

theorem Valid.perform (hp : p.Valid) {act : Act} (h : p.perform parse act = some p') :
    p'.Valid := by
  cases act with
  | reload env found file => exact hp.reload h
  | setDevices env d => exact Option.some.inj h ▸ valid_load env d
  | write l f =>
    unfold DevicePointers.perform at h
    cases hl : p.fans.find? l with
    | none =>
      simp only [hl] at h
      exact Option.some.inj h ▸ hp
    | some q =>
      obtain ⟨g, rfl⟩ := Option.ne_none_iff_exists'.mp (hp.fans.nonNull l q hl)
      simp only [hl] at h
      split_ifs at h with hsame
      · exact Option.some.inj h ▸ hp.write hl hsame.1 hsame.2
      · exact Option.some.inj h ▸ hp

theorem valid_of_reachable (h : Transition.Reachable (system parse) p) : p.Valid := by
  refine Transition.ReachableWhen.invariant Valid ?_ ?_ h
  · rintro _ rfl
    exact valid_start
  · rintro p act p' hp - hstep
    exact hp.perform hstep

/-- **In every state of every run the pointers are not null, each device is stored under its own
label and no hardware id is stored twice.** -/
theorem device_maps_stored (parse : Text → Bool × ControllerMsg) (p : DevicePointers)
    (h : Transition.Reachable (system parse) p) :
    Stored Fan.label Fan.hwId p.fans ∧ Stored Sensor.label Sensor.hwId p.sensors :=
  ⟨(valid_of_reachable h).fans.stored Fan.hwId_save fun _ => Fan.label_save _,
    (valid_of_reachable h).sensors.stored Sensor.hwId_save Sensor.label_save⟩

/-! ## Labels and hardware ids that come twice -/

def doubledFan (label pwmPath : String) : FoundFan where
  label := label
  kind := .sysfs ⟨pwmPath, "/sys/fan1_input", "", 2⟩
  ignore := false

def doubledFound : Found where
  fans := [doubledFan "fan1" "/sys/pwm1", doubledFan "fan1" "/sys/pwm2",
    doubledFan "fan2" "/sys/pwm1"]

def doubledConfig : ControllerMsg where
  devices := ⟨[{ label := "cpu", pwmPath := "/sys/pwm1" },
    { label := "cpu", pwmPath := "/sys/pwm2" }, { label := "case", pwmPath := "/sys/pwm1" }], []⟩

def doubledText : Text :=
  ("devices \x7b fan \x7b label: \"cpu\" pwm_path: \"/sys/pwm1\" \x7d " ++
    "fan \x7b label: \"cpu\" pwm_path: \"/sys/pwm2\" \x7d " ++
    "fan \x7b label: \"case\" pwm_path: \"/sys/pwm1\" \x7d \x7d").toList

def parseDoubled : Text → Bool × ControllerMsg := parserOf [(doubledText, true, doubledConfig)]

/-- Of the three fans that are found and the three of the config, two are left. -/
theorem device_maps_stored_doubled : ∃ p : DevicePointers,
    DevicePointers.reload readyEnv parseDoubled doubledFound (some doubledText) {} = some p ∧
      p.fans.keys = ["cpu", "fan2"] ∧
      Stored Fan.label Fan.hwId p.fans ∧ Stored Sensor.label Sensor.hwId p.sensors := by
  have hreturns : ((({} : DevicePointers).merge (Devices.enumerate doubledFound).pointers false
      false).bind fun (p, enumerated) =>
      (p.merge (Devices.load readyEnv doubledConfig.devices).pointers true true).bind
        fun (p, confDevs) => p.removeDevicesNotIn [enumerated, confDevs]).any
      (fun p => p.fans.keys = ["cpu", "fan2"]) = true := by decide +kernel
  obtain ⟨p, hp, hkeys⟩ := (Option.any_eq_true _ _).mp hreturns
  have hreload : DevicePointers.reload readyEnv parseDoubled doubledFound (some doubledText) {} =
      some p := by
    rw [DevicePointers.reload, readConfig, Option.map_some, parseDoubled, parserOf_self]
    exact hp
  refine ⟨p, hreload, of_decide_eq_true hkeys, ?_⟩
  exact device_maps_stored parseDoubled p
    (.step (a := .reload readyEnv doubledFound (some doubledText)) (.init rfl) trivial hreload)

/-! ## The maps of the controller -/

theorem Follows.controls (h : Follows c p) (hcontrols : Controls c c') : Follows c' p where
  fans := h.fans.trans (view_fans_of_controls hcontrols).symm
  sensors := by
    rw [hcontrols.sensors]
    exact h.sensors

theorem Follows.test (h : Follows c p) {l : String} {forced blocking : Bool}
    (hop : c.test drv l forced blocking = some c') : Follows c' p := by
  rcases test_cases hop with rfl | ⟨f, d, -, -, -, hd, rfl⟩
  · exact h
  · have hd := h.controls (controls_eraseTask hd)
    exact ⟨hd.fans, hd.sensors⟩

/-- What an operation does to the pointers, if it does anything to them. -/
def act? (c : Controller) : Operation → Option Act
  | .reload env found file => some (.reload env found file)
  | .setDevices env d => some (.setDevices env d)
  | .testWrites l r | .testComplete l r => (c.fan? l).map fun f => .write l (f.afterTest r)
  | .enable _ | .enableAll | .disable _ | .disableAll | .test _ _ _ | .recover => none

/-- The pointers after an operation. -/
def follow (parse : Text → Bool × ControllerMsg) (p : DevicePointers) :
    Option Act → Option DevicePointers
  | some act => p.perform parse act
  | none => some p

/-- A test writes through the pointer to its fan. -/
theorem Follows.write (h : Follows c p) {l : String} {f : Fan} (hf : c.fan? l = some f)
    (r : TestResult) : ∃ p', p.perform parse (.write l (f.afterTest r)) = some p' ∧
      Follows (c.setFan l (f.afterTest r)) p' := by
  have hl : pointed Fan.save p.fans l = some f.save := by
    rw [h.fans]
    exact view_eq_some.mpr ⟨f, hf, rfl⟩
  obtain ⟨g, hg, hsame⟩ := pointed_eq_some.mp hl
  have hlabel : g.label = (f.afterTest r).label := by
    rw [← Fan.label_save, hsame, Fan.label_save]
    rfl
  have hid : g.hwId = (f.afterTest r).hwId := by
    rw [← Fan.hwId_save, hsame, Fan.hwId_save, Fan.hwId_afterTest]
  refine ⟨{ p with fans := p.fans.insertOrAssign l (some (f.afterTest r)) }, ?_, ?_, h.sensors⟩
  · simp only [DevicePointers.perform, hg, if_pos (And.intro hlabel hid)]
  · rw [pointed_write, h.fans]
    funext k
    show _ = ((c.devices.fans.insertOrAssign l (f.afterTest r)).find? k).map Fan.save
    rw [UnorderedMap.find?_insertOrAssign]
    by_cases hk : k = l
    · rw [if_pos hk, hk, Function.update_self, Option.map_some]
    · rw [if_neg hk, Function.update_of_ne hk]
      rfl

theorem Follows.testWrites (h : Follows c p) {l : String} {r : TestResult}
    (hop : c.testWrites l r = some c') :
    ∃ p', p.follow parse (act? c (.testWrites l r)) = some p' ∧ Follows c' p' := by
  obtain ⟨f, -, hf, rfl⟩ := testWrites_cases hop
  rw [act?, hf, Option.map_some, follow]
  exact h.write hf r

theorem Follows.testComplete (h : Follows c p) {l : String} {r : TestResult}
    (hop : c.testComplete drv l r = some c') :
    ∃ p', p.follow parse (act? c (.testComplete l r)) = some p' ∧ Follows c' p' := by
  obtain ⟨f, -, hf, rfl⟩ := testComplete_cases hop
  obtain ⟨p', hp', hwritten⟩ := @Follows.write parse _ _ h _ _ hf r
  have hset : Follows ((c.setFan l (f.afterTest r)).setTasks (c.tasks.erase l)) p' :=
    ⟨hwritten.fans, hwritten.sensors⟩
  rw [act?, hf, Option.map_some, follow]
  exact ⟨p', hp', hset.controls (controls_enable _ l)⟩

theorem Follows.perform (h : Follows c p) (hp : p.Valid) {op : Operation}
    (hop : c.perform drv parse op = some c') :
    ∃ p', p.follow parse (act? c op) = some p' ∧ Follows c' p' := by
  cases op with
  | enable l => exact ⟨p, rfl, Option.some.inj hop ▸ h.controls (controls_enable c l)⟩
  | enableAll => exact ⟨p, rfl, Option.some.inj hop ▸ h.controls (controls_enableAll c)⟩
  | disable l => exact ⟨p, rfl, h.controls (controls_disable hop)⟩
  | disableAll => exact ⟨p, rfl, h.controls (controls_disableAll hop)⟩
  | test l forced blocking => exact ⟨p, rfl, h.test hop⟩
  | testWrites l r => exact h.testWrites hop
  | testComplete l r => exact h.testComplete hop
  | reload env found file => exact h.reload hp hop
  | setDevices env d =>
    obtain ⟨c₁, -, rfl⟩ := Option.map_eq_some_iff.mp hop
    have hload : Follows { c₁ with devices := Devices.load env d } (Devices.load env d).pointers :=
      ⟨pointed_new _, pointed_new _⟩
    exact ⟨_, rfl, hload.controls (controls_enableAll _)⟩
  | recover => exact ⟨p, rfl, Option.some.inj hop ▸ h.controls (controls_recover c)⟩

/-- **The maps of every state of a run of the controller are what such pointers point to, and from
there every operation that returns is followed by one on the pointers that returns.** -/
theorem pointers_follow (parse : Text → Bool × ControllerMsg) (drivers : Driver → Prop)
    (c : Controller) (h : Transition.Reachable (Controller.system parse drivers) c) :
    (∃ p, Transition.Reachable (system parse) p ∧ Follows c p) ∧
    ∀ p, Transition.Reachable (system parse) p → Follows c p → ∀ drv op c',
      c.perform drv parse op = some c' →
      ∃ p', p.follow parse (act? c op) = some p' ∧ Follows c' p' := by
  refine ⟨?_, fun p hp hfollows drv op c' hop => hfollows.perform (valid_of_reachable hp) hop⟩
  refine Transition.ReachableWhen.invariant
    (fun c => ∃ p, Transition.Reachable (system parse) p ∧ Follows c p) ?_ ?_ h
  · rintro _ rfl
    exact ⟨{}, .init rfl, rfl, rfl⟩
  · rintro c op c' ⟨p, hp, hfollows⟩ - ⟨drv, -, hstep⟩
    obtain ⟨p', hact, hnext⟩ := hfollows.perform (valid_of_reachable hp) hstep
    cases hop : act? c op with
    | none =>
      rw [hop] at hact
      exact ⟨p', Option.some.inj hact ▸ hp, hnext⟩
    | some act =>
      rw [hop] at hact
      exact ⟨p', .step hp trivial hact, hnext⟩

theorem pointers_follow_renamed :
    (∃ p, Transition.Reachable (system parseRenamed) p ∧ Follows renamed p) ∧
    ∀ p, Transition.Reachable (system parseRenamed) p → Follows renamed p → ∀ drv op c',
      renamed.perform drv parseRenamed op = some c' →
      ∃ p', p.follow parseRenamed (act? renamed op) = some p' ∧ Follows c' p' :=
  pointers_follow parseRenamed (fun _ => True) renamed renamed_reachable

end DevicePointers

end Fancon
