import KaCanOpen.ReceiveMappings

/-!
# Operations and constants

Besides its dictionary a device keeps two tables: `m_operations`, the
operations `execute` runs by name, and `m_constants`, the values `get_constant`
returns by name. Each table is written two ways. `add_operation` and
`add_constant` assign through `operator[]`, replacing what the escaped name
held. `load_operations` and `load_constants`, which `start` calls, read the
device profile number and insert that profile's table with
`std::map::insert`, which keeps every key already bound. So a profile load
never replaces an operation or a constant added before it, and an added one
holds until the next add under the same escaped name. The tables of
`Profiles` are not under src/: they are a parameter.
-/

set_option autoImplicit false

namespace KaCanOpen.Device

open DeviceM

variable (escape : String → String)

/-- `Operation`: `std::function<Value(Device&, const Value&)>`. -/
abbrev Operation := Value → DeviceM Value

/-- `Profiles::operations` and `Profiles::constants`: the tables of each device
profile, by profile number. -/
structure Profiles where
  operations : UInt16 → Option (StdMap (List Char) Operation)
  constants : UInt16 → Option (StdMap (List Char) Value)

/-- The members `m_operations` and `m_constants`, keyed by the characters of a name. -/
structure Registry where
  operations : StdMap (List Char) Operation
  constants : StdMap (List Char) Value

/-- The insertion `load_operations` and `load_constants` make once they have
the profile number: the profile's table, if there is one, inserted into the
device's, and whether there was one. -/
def loadTable {ν : Type} (table : Option (StdMap (List Char) ν)) (m : StdMap (List Char) ν) :
    Bool × StdMap (List Char) ν :=
  match table with
  | some t => (true, m.insertAll t.entries)
  | none => (false, m)

/-- `Device::load_operations`. -/
def loadOperations (profiles : Profiles) (r : Registry) : DeviceM (Bool × Registry) := do
  let profile ← getDeviceProfileNumber escape
  let loaded := loadTable (profiles.operations profile) r.operations
  pure (loaded.1, { r with operations := loaded.2 })

/-- `Device::add_operation`. -/
def addOperation (operationName : String) (operation : Operation) (r : Registry) : Registry :=
  { r with operations := r.operations.assign (escape operationName).toList operation }

/-- `Device::execute`. -/
def execute (r : Registry) (operationName : String) (argument : Value) : DeviceM Value :=
  let name := escape operationName
  match r.operations.find? name.toList with
  | some operation => operation argument
  | none => throw (.dictionary ⟨.unknownOperation, name, ""⟩)

/-- `Device::load_constants`. -/
def loadConstants (profiles : Profiles) (r : Registry) : DeviceM (Bool × Registry) := do
  let profile ← getDeviceProfileNumber escape
  let loaded := loadTable (profiles.constants profile) r.constants
  pure (loaded.1, { r with constants := loaded.2 })

/-- `Device::add_constant`. -/
def addConstant (constantName : String) (constant : Value) (r : Registry) : Registry :=
  { r with constants := r.constants.assign (escape constantName).toList constant }

/-- `Device::get_constant`. -/
def getConstant (r : Registry) (constantName : String) : Except Error Value :=
  let name := escape constantName
  match r.constants.find? name.toList with
  | some constant => .ok constant
  | none => .error (.dictionary ⟨.unknownConstant, name, ""⟩)

/-- `Device::start` with the tables: the two loads, then the node is started. -/
def startWith (profiles : Profiles) (r : Registry) : DeviceM Registry := do
  let (_, r) ← loadOperations escape profiles r
  let (_, r) ← loadConstants escape profiles r
  sendNmtMessage (← get).nodeId .startNode
  pure r

/-! ## What each function does to a lookup -/

/-- A load keeps every bound key and binds each missing one the profile's table has. -/
theorem find?_loadTable {ν : Type} (table : Option (StdMap (List Char) ν))
    (m : StdMap (List Char) ν) (k : List Char) :
    (loadTable table m).2.find? k = (m.find? k).orElse fun _ => table.bind (·.find? k) := by
  cases table with
  | some t => exact StdMap.find?_insertAll k m t.entries
  | none =>
    show m.find? k = _
    cases m.find? k <;> rfl

theorem getConstant_addConstant (constantName : String) (constant : Value) (r : Registry) :
    getConstant escape (addConstant escape constantName constant r) constantName = .ok constant := by
  simp [getConstant, addConstant, StdMap.find?_assign]

theorem execute_addOperation (operationName : String) (operation : Operation) (r : Registry)
    (argument : Value) :
    execute escape (addOperation escape operationName operation r) operationName argument =
      operation argument := by
  simp [execute, addOperation, StdMap.find?_assign]

/-- `start` as the device model has it is `start` with the tables, the tables
dropped: what the tables hold changes nothing `start` does to the device. -/
theorem startWith_discard (profiles : Profiles) (r : Registry) :
    Functor.discard (startWith escape profiles r) = start escape := by
  funext d
  simp only [startWith, start, loadOperations, loadConstants, bind_apply, discard_apply, pure_apply,
    get_apply]
  cases getDeviceProfileNumber escape d with
  | error e d₁ => rfl
  | ok p d₁ =>
    dsimp only
    cases getDeviceProfileNumber escape d₁ with
    | error e d₂ => rfl
    | ok p' d₂ =>
      dsimp only
      cases sendNmtMessage d₂.nodeId .startNode d₂ <;> rfl

/-! ## Runs of the table interface -/

/-- The calls of the operation and constant interface. -/
inductive RegistryCall
  | loadOperations
  | addOperation (operationName : String) (operation : Operation)
  | execute (operationName : String) (argument : Value)
  | loadConstants
  | addConstant (constantName : String) (constant : Value)
  | getConstant (constantName : String)

/-- A call on the tables and the device, returning the tables it leaves. -/
def RegistryCall.exec (profiles : Profiles) : RegistryCall → Registry → DeviceM Registry
  | .loadOperations, r => Prod.snd <$> Device.loadOperations escape profiles r
  | .addOperation operationName operation, r =>
    pure (Device.addOperation escape operationName operation r)
  | .execute operationName argument, r => do
    discard <| Device.execute escape r operationName argument
    pure r
  | .loadConstants, r => Prod.snd <$> Device.loadConstants escape profiles r
  | .addConstant constantName constant, r => pure (Device.addConstant escape constantName constant r)
  | .getConstant constantName, r => do
    discard <| throwExcept (Device.getConstant escape r constantName)
    pure r

/-- Calls one after another; a call that throws leaves the tables as they were,
and the device as the call left it. -/
def runRegistry (profiles : Profiles) : List RegistryCall → Registry → Device → Registry × Device
  | [], r, d => (r, d)
  | c::cs, r, d =>
    match c.exec escape profiles r d with
    | .ok r' d' => runRegistry profiles cs r' d'
    | .error _ d' => runRegistry profiles cs r d'

/-- What a call that returns does to the tables, once the profile number it
read is `profile`. -/
def RegistryCall.update (profiles : Profiles) (profile : UInt16) :
    RegistryCall → Registry → Registry
  | .loadOperations, r =>
    { r with operations := (loadTable (profiles.operations profile) r.operations).2 }
  | .addOperation operationName operation, r => Device.addOperation escape operationName operation r
  | .loadConstants, r =>
    { r with constants := (loadTable (profiles.constants profile) r.constants).2 }
  | .addConstant constantName constant, r => Device.addConstant escape constantName constant r
  | .execute .., r | .getConstant .., r => r

theorem RegistryCall.exec_ok {profiles : Profiles} {c : RegistryCall} {r r' : Registry}
    {d d' : Device} (h : c.exec escape profiles r d = .ok r' d') :
    ∃ profile, r' = c.update escape profiles profile r := by
  cases c <;> simp only [exec, Device.loadOperations, Device.loadConstants, map_apply, bind_apply,
    pure_apply, discard_apply] at h
  case addOperation | addConstant => cases h; exact ⟨0, rfl⟩
  case loadOperations | loadConstants =>
    cases hp : getDeviceProfileNumber escape d <;> simp only [hp] at h <;> cases h
    exact ⟨_, rfl⟩
  case execute | getConstant =>
    split at h <;> cases h
    exact ⟨0, rfl⟩

/-- A property of the tables that every update of the calls keeps holds after the run. -/
theorem runRegistry_keeps (profiles : Profiles) (P : Registry → Prop) :
    ∀ {cs : List RegistryCall},
      (∀ c ∈ cs, ∀ profile r, P r → P (c.update escape profiles profile r)) →
      ∀ {r : Registry} {d : Device}, P r → P (runRegistry escape profiles cs r d).1
  | [], _, _, _, hr => hr
  | c::cs, hcs, r, d, hr => by
    have hrest := fun c' hc' => hcs c' (List.mem_cons_of_mem c hc')
    rw [runRegistry]
    split
    · next r' d' h =>
      obtain ⟨profile, rfl⟩ := RegistryCall.exec_ok escape h
      exact runRegistry_keeps profiles P hrest (hcs c (List.mem_cons_self c cs) profile r hr)
    · exact runRegistry_keeps profiles P hrest hr

/-- A constant added under a name is returned by `get_constant` after any later
calls that add no constant under the same escaped name: `load_constants` never
replaces it. -/
theorem added_constant_kept (profiles : Profiles) (constantName : String) (constant : Value)
    (cs : List RegistryCall)
    (hcs : ∀ name v, RegistryCall.addConstant name v ∈ cs → escape name ≠ escape constantName)
    (r : Registry) (d : Device) :
    getConstant escape (runRegistry escape profiles cs (addConstant escape constantName constant r) d).1
      constantName = .ok constant := by
  have hkept : (runRegistry escape profiles cs (addConstant escape constantName constant r) d
      ).1.constants.find? (escape constantName).toList = some constant := by
    refine runRegistry_keeps escape profiles
      (fun r => r.constants.find? (escape constantName).toList = some constant)
      (fun c hc profile r' hr' => ?_) (by simp [addConstant, StdMap.find?_assign])
    cases c with
    | loadConstants => simp only [RegistryCall.update, find?_loadTable, hr']; rfl
    | addConstant name v =>
      simp only [RegistryCall.update, addConstant, StdMap.find?_assign, hr']
      exact if_neg fun h => hcs name v hc (String.ext h).symm
    | _ => exact hr'
  simp only [getConstant, hkept]

theorem added_constant_kept_x :
    (∀ name v, RegistryCall.addConstant name v ∈ [.loadConstants, .getConstant "pi"] →
      id name ≠ id "pi") ∧
    getConstant id (runRegistry id ⟨fun _ => none, fun _ => none⟩ [.loadConstants, .getConstant "pi"]
      (addConstant id "pi" ⟨.uint8, [3]⟩ ⟨StdMap.empty, StdMap.empty⟩) emptyDevice).1 "pi" =
      .ok ⟨.uint8, [3]⟩ :=
  ⟨by simp, added_constant_kept id _ "pi" _ _ (by simp) _ _⟩

/-- An operation added under a name is what `execute` runs after any later
calls that add no operation under the same escaped name: `load_operations`
never replaces it. -/
theorem added_operation_kept (profiles : Profiles) (operationName : String) (operation : Operation)
    (cs : List RegistryCall)
    (hcs : ∀ name op, RegistryCall.addOperation name op ∈ cs → escape name ≠ escape operationName)
    (r : Registry) (d : Device) (argument : Value) :
    execute escape (runRegistry escape profiles cs (addOperation escape operationName operation r) d).1
      operationName argument = operation argument := by
  have hkept : (runRegistry escape profiles cs (addOperation escape operationName operation r) d
      ).1.operations.find? (escape operationName).toList = some operation := by
    refine runRegistry_keeps escape profiles
      (fun r => r.operations.find? (escape operationName).toList = some operation)
      (fun c hc profile r' hr' => ?_) (by simp [addOperation, StdMap.find?_assign])
    cases c with
    | loadOperations => simp only [RegistryCall.update, find?_loadTable, hr']; rfl
    | addOperation name op =>
      simp only [RegistryCall.update, addOperation, StdMap.find?_assign, hr']
      exact if_neg fun h => hcs name op hc (String.ext h).symm
    | _ => exact hr'
  simp only [execute, hkept]

theorem added_operation_kept_x :
    (∀ name op, RegistryCall.addOperation name op ∈ [.loadOperations, .execute "id" ⟨.uint8, [3]⟩] →
      id name ≠ id "id") ∧
    execute id (runRegistry id ⟨fun _ => none, fun _ => none⟩
      [.loadOperations, .execute "id" ⟨.uint8, [3]⟩]
      (addOperation id "id" pure ⟨StdMap.empty, StdMap.empty⟩) emptyDevice).1 "id" ⟨.uint8, [3]⟩ =
      pure ⟨.uint8, [3]⟩ :=
  ⟨by simp, added_operation_kept id _ "id" _ _ (by simp) _ _ _⟩

end KaCanOpen.Device
