import RevPilot.Safety.KillSwitch

/-! Kill switches across outages: which of the stores an activation has reached,
and which of them a later query reads. -/
namespace RevPilot.Safety
open Library Shared Runs KillSwitchService

inductive KillSwitchOperation : Type
  | join
  | activate (n : Nat) (args : Activate) (switchId : UUIDv7) (now : UtcDateTime)
  | deactivate (n : Nat) (switchId : UUIDv7) (reason principal : String) (now : UtcDateTime)
  | setBus (healthy : Bool)
  | setDb (n : Nat) (healthy : Bool)

namespace KillSwitchOperation

def generated : KillSwitchOperation → Option UUIDv7
  | .activate _ _ switchId _ => some switchId
  | _ => none

def deactivates : KillSwitchOperation → Option UUIDv7
  | .deactivate _ switchId _ _ _ => some switchId
  | _ => none

/-- One operation; a call that raises, or names no node, changes nothing. -/
def step (casing : Text.Casing) (c : Cluster) : KillSwitchOperation → Cluster
  | .join => KillSwitchService.join c
  | .activate n args switchId now =>
    match c.nodes[n]?, KillSwitchService.activate casing c n args switchId now with
    | some _, .ok (_,after) => after
    | _, _ => c
  | .deactivate n switchId reason principal now =>
    match c.nodes[n]? with
    | some node =>
      match KillSwitchService.deactivate casing c n node switchId reason principal now with
      | .ok (_,after) => after
      | .error _ => c
    | none => c
  | .setBus healthy => { c with isHealthy := healthy }
  | .setDb n healthy => { c with nodes := c.nodes.modify n (fun node => { node with isDbHealthy := healthy }) }

end KillSwitchOperation

/-- Where the record of one switch is: on the bus, and in the database of node `n`. -/
structure Tracked (record : KillSwitchRecord) (n : Nat) (onBus inDb : Bool) (c : Cluster) : Prop where
  bus : c.activeRecords.get record.switchId = if onBus then some record else none
  node : ∃ node, c.nodes[n]? = some node ∧
    node.dbStore.get record.switchId = if inDb then some record else none

section tracking
variable {record : KillSwitchRecord} {n : Nat} {onBus inDb : Bool}

/-- Changing the nodes one by one keeps the record's places, if each change leaves
the record's entry alone. -/
theorem tracked_nodes {c : Cluster} (tracked : Tracked record n onBus inDb c) (nodes : List Node)
    (f : Node → Node) (moved : nodes[n]? = (c.nodes[n]?).map f)
    (kept : ∀ node, (f node).dbStore.get record.switchId = node.dbStore.get record.switchId) :
    Tracked record n onBus inDb { c with nodes := nodes } := by
  obtain ⟨bus,node,present,stored⟩ := tracked
  refine ⟨bus,f node,?_,?_⟩
  · simp [moved,present]
  · rw [kept]
    exact stored

private theorem onRemoteUpdate_other {other : KillSwitchRecord} (apart : other.switchId ≠ record.switchId)
    (node : Node) : (onRemoteUpdate other node).dbStore.get record.switchId = node.dbStore.get record.switchId := by
  simp only [onRemoteUpdate,SwitchStore.get_put,if_neg (Ne.symm apart)]

private theorem writeLocal_other {other : KillSwitchRecord} (apart : other.switchId ≠ record.switchId)
    (node : Node) : (writeLocal other node).dbStore.get record.switchId = node.dbStore.get record.switchId := by
  unfold writeLocal
  dsimp only
  split
  next healthy => rw [SwitchStore.get_put,if_neg (Ne.symm apart)]
  next down => rfl

/-- Writing and pushing another switch leaves this one where it is. -/
theorem tracked_write {c : Cluster} (tracked : Tracked record n onBus inDb c) (m : Nat)
    {other : KillSwitchRecord} (apart : other.switchId ≠ record.switchId) :
    Tracked record n onBus inDb (writeAndPublish c m other) := by
  have written : Tracked record n onBus inDb { c with nodes := c.nodes.modify m (writeLocal other) } := by
    apply tracked_nodes tracked _ (fun node => if m = n then writeLocal other node else node)
    · rw [List.getElem?_modify]
      rfl
    · intro node
      split
      next => exact writeLocal_other apart node
      next => rfl
  unfold writeAndPublish publish
  split
  next healthy =>
    have pushed := tracked_nodes written ((c.nodes.modify m (writeLocal other)).map (onRemoteUpdate other))
      (onRemoteUpdate other) (by simp) (onRemoteUpdate_other apart)
    refine ⟨?_,pushed.node⟩
    rw [SwitchStore.get_put,if_neg (Ne.symm apart)]
    exact tracked.bus
  next down => exact written

private theorem lookup_keyed {node : Node} {switchId : UUIDv7} {existing : KillSwitchRecord}
    (found : lookup node switchId = some existing) : existing.switchId = switchId := by
  rcases Option.or_eq_some_iff.mp found with cached | ⟨_,stored⟩
  · exact node.localCache.keyed _ _ cached
  · exact node.dbStore.keyed _ _ stored

private theorem activate_ok {casing : Text.Casing} {c after : Cluster} {m : Nat} {args : Activate}
    {switchId : UUIDv7} {now : UtcDateTime} {made : KillSwitchRecord}
    (ok : KillSwitchService.activate casing c m args switchId now = .ok (made,after)) :
    made.switchId = switchId ∧ made.isActive = true ∧ after = writeAndPublish c m made := by
  unfold KillSwitchService.activate at ok
  split at ok
  next => cases ok
  next =>
    split at ok
    next =>
      cases ok
      exact ⟨rfl,rfl,rfl⟩
    next => cases ok

private theorem deactivate_ok {casing : Text.Casing} {c after : Cluster} {m : Nat} {node : Node}
    {switchId : UUIDv7} {reason principal : String} {now : UtcDateTime} {made : KillSwitchRecord}
    (ok : KillSwitchService.deactivate casing c m node switchId reason principal now = .ok (made,after)) :
    made.switchId = switchId ∧ after = writeAndPublish c m made := by
  unfold KillSwitchService.deactivate at ok
  split at ok
  next => cases ok
  next =>
    split at ok
    next => cases ok
    next existing found =>
      split at ok
      next =>
        have own := lookup_keyed found
        cases ok
        exact ⟨own,rfl⟩
      next => cases ok

/-- No operation moves the switch but its own deactivation. -/
theorem tracked_step (casing : Text.Casing) {c : Cluster} {op : KillSwitchOperation}
    (tracked : Tracked record n onBus inDb c) (noDeactivation : op.deactivates ≠ some record.switchId)
    (noCollision : op.generated ≠ some record.switchId) :
    Tracked record n onBus inDb (op.step casing c) := by
  cases op with
  | join =>
    obtain ⟨bus,node,present,stored⟩ := tracked
    refine ⟨bus,node,?_,stored⟩
    have bound : n < c.nodes.length := (List.getElem?_eq_some_iff.mp present).1
    simp only [KillSwitchOperation.step,KillSwitchService.join]
    rw [List.getElem?_append_left bound]
    exact present
  | activate m args switchId now =>
    simp only [KillSwitchOperation.step]
    split
    next made after _ ok =>
      obtain ⟨own,_,rfl⟩ := activate_ok ok
      apply tracked_write tracked
      intro clash
      exact noCollision (congrArg some (own.symm.trans clash))
    next => exact tracked
  | deactivate m switchId reason principal now =>
    simp only [KillSwitchOperation.step]
    split
    next node _ =>
      split
      next made after ok =>
        obtain ⟨own,rfl⟩ := deactivate_ok ok
        apply tracked_write tracked
        intro clash
        exact noDeactivation (congrArg some (own.symm.trans clash))
      next => exact tracked
    next => exact tracked
  | setBus healthy => exact ⟨tracked.bus,tracked.node⟩
  | setDb m healthy =>
    simp only [KillSwitchOperation.step]
    apply tracked_nodes tracked _ (fun node => if m = n then { node with isDbHealthy := healthy } else node)
    · rw [List.getElem?_modify]
      rfl
    · intro node
      split <;> rfl

/-- An activation reaches the bus if it is reachable, and the node's database if
that is healthy or the push comes back from the bus. -/
theorem tracked_activation {casing : Text.Casing} {c after : Cluster} {node : Node} {args : Activate}
    {switchId : UUIDv7} {now : UtcDateTime} (present : c.nodes[n]? = some node)
    (activated : KillSwitchService.activate casing c n args switchId now = .ok (record,after))
    (newToBus : c.activeRecords.get switchId = none) (newToDb : node.dbStore.get switchId = none) :
    Tracked record n c.isHealthy (c.isHealthy || node.isDbHealthy) after := by
  obtain ⟨rfl,_,rfl⟩ := activate_ok activated
  have local_ : ({ c with nodes := c.nodes.modify n (writeLocal record) } : Cluster).nodes[n]? =
      some (writeLocal record node) := by
    simp [present]
  unfold writeAndPublish publish
  split
  next healthy =>
    dsimp only at healthy local_ ⊢
    rw [healthy]
    refine ⟨?_,onRemoteUpdate record (writeLocal record node),?_,?_⟩
    · simp [SwitchStore.get_put]
    · simp [local_]
    · simp [onRemoteUpdate,SwitchStore.get_put]
  next down =>
    dsimp only at down local_ ⊢
    rw [Bool.not_eq_true] at down
    rw [down]
    refine ⟨by simpa using newToBus,writeLocal record node,local_,?_⟩
    simp only [writeLocal,Bool.false_or]
    split
    next healthy => simp [SwitchStore.get_put]
    next => exact newToDb

/-- Whether a store's active switches block a query, told apart by the one switch. -/
private theorem any_store (casing : Text.Casing) {store : SwitchStore} {present : Bool} {q : Query}
    (active : record.isActive = true) (hit : matchesQuery casing record q = true)
    (stored : store.get record.switchId = if present then some record else none) :
    (store.values.filter (·.isActive)).any (fun switch => switch.isActive && matchesQuery casing switch q) = true ↔
      present = true ∨ ∃ other ∈ store.values.filter (·.isActive),
        other.switchId ≠ record.switchId ∧ matchesQuery casing other q = true := by
  simp only [List.any_eq_true,List.mem_filter,Bool.and_eq_true,SwitchStore.mem_values]
  constructor
  · rintro ⟨switch,⟨inside,isActive⟩,_,hits⟩
    by_cases own : switch.switchId = record.switchId
    · left
      rw [own,stored] at inside
      by_contra absent
      simp [absent] at inside
    · exact .inr ⟨switch,⟨inside,isActive⟩,own,hits⟩
  · rintro (here | ⟨other,inside,_,hits⟩)
    · refine ⟨record,⟨?_,active⟩,active,hit⟩
      simp [stored,here]
    · exact ⟨other,inside,inside.2,hits⟩

/-- After an activation, whatever operations and outages follow but a deactivation
of this switch, a query that the switch matches is blocked on that node exactly
when the bus was up at the activation, or the bus is down now and the node's
database was up then or is down now, or another switch blocks the query. -/
theorem activated_blocks_iff (casing : Text.Casing) {c activated : Cluster} {node : Node} {args : Activate}
    {switchId : UUIDv7} {now : UtcDateTime} (present : c.nodes[n]? = some node)
    (ok : KillSwitchService.activate casing c n args switchId now = .ok (record,activated))
    (newToBus : c.activeRecords.get switchId = none) (newToDb : node.dbStore.get switchId = none)
    (ops : List KillSwitchOperation) (noDeactivation : ∀ op ∈ ops, op.deactivates ≠ some switchId)
    (noCollision : ∀ op ∈ ops, op.generated ≠ some switchId) {later : Node}
    (still : (run (KillSwitchOperation.step casing) activated ops).nodes[n]? = some later) (q : Query)
    (hit : matchesQuery casing record q = true) (lockId : UUIDv7) (asked : UtcDateTime) :
    isBlocked casing (run (KillSwitchOperation.step casing) activated ops) later q lockId asked = true ↔
      c.isHealthy = true ∨
      ((run (KillSwitchOperation.step casing) activated ops).isHealthy = false ∧
        (node.isDbHealthy = true ∨ later.isDbHealthy = false)) ∨
      ∃ other ∈ getActiveSwitches (run (KillSwitchOperation.step casing) activated ops) later lockId asked,
        other.switchId ≠ switchId ∧ matchesQuery casing other q = true := by
  obtain ⟨own,active,_⟩ := activate_ok ok
  have start := tracked_activation present ok newToBus newToDb
  have met : Along (KillSwitchOperation.step casing) (fun _ op => op.deactivates ≠ some record.switchId ∧
      op.generated ≠ some record.switchId) activated ops := by
    rw [along_iff]
    intro pre op post split
    have inside : op ∈ ops := by simp [split]
    rw [own]
    exact ⟨noDeactivation op inside,noCollision op inside⟩
  have final := invariant_run (KillSwitchOperation.step casing)
    (fun c op tracked apart => tracked_step casing tracked apart.1 apart.2) start met
  generalize run (KillSwitchOperation.step casing) activated ops = reached at still final ⊢
  obtain ⟨bus,found,place,stored⟩ := final
  rw [still] at place
  cases place
  rw [← own]
  unfold isBlocked getActiveSwitches
  by_cases up : reached.isHealthy = true
  · simp only [up,if_true,any_store casing active hit bus]
    simp
  · rw [Bool.not_eq_true] at up
    by_cases dbUp : later.isDbHealthy = true
    · simp only [up,dbUp,if_true,Bool.false_eq_true,if_false,any_store casing active hit stored]
      simp [or_assoc]
    · rw [Bool.not_eq_true] at dbUp
      simp [up,dbUp,failClosed,matchesQuery]

end tracking

section samples
open KillSwitchOperation

/-- One node, after the given operations. -/
def oneNode (ops : List KillSwitchOperation) : Cluster :=
  run (step Text.asciiCasing) ⟨.empty,true,[]⟩ (.join :: ops)

def stopEverything : Activate := ⟨.global,none,"incident","usr_oncall"⟩

def switchOne : UUIDv7 := ⟨"01890a5d-ac96-774b-bcce-b302099ab001"⟩

def refundQuery : Query := { tenantId := ⟨"tnt_acme",Eq.refl true⟩, capability := "refund", provider := "billing" }

def stopRecord : KillSwitchRecord where
  switchId := switchOne
  scope := .global
  reason := Text.strip stopEverything.reason
  activatedBy := Text.strip stopEverything.principal
  activatedAt := ⟨0⟩
  reasonAccepted := by decide
  principalAccepted := by decide

private theorem stop_ok (c : Cluster) :
    KillSwitchService.activate Text.asciiCasing c 0 stopEverything switchOne ⟨0⟩ =
      .ok (stopRecord,writeAndPublish c 0 stopRecord) := by
  unfold KillSwitchService.activate
  rw [if_neg (by decide +kernel),dif_pos ⟨by decide,by decide⟩]
  rfl

/-- The node after the activation of `stopRecord` and some more operations. -/
def afterStop (before after : List KillSwitchOperation) : Cluster :=
  run (step Text.asciiCasing) (writeAndPublish (oneNode before) 0 stopRecord) after

/-- Activated with the bus up, the switch still blocks when the bus goes down. -/
theorem activated_then_bus_down :
    ∃ later, (afterStop [] [.setBus false]).nodes[0]? = some later ∧
      isBlocked Text.asciiCasing (afterStop [] [.setBus false]) later refundQuery switchOne ⟨1⟩ = true := by
  have present : (oneNode []).nodes[0]? = some ⟨.empty,.empty,true⟩ := rfl
  obtain ⟨later,still⟩ : ∃ later, (afterStop [] [.setBus false]).nodes[0]? = some later := ⟨_,rfl⟩
  refine ⟨later,still,?_⟩
  apply (activated_blocks_iff Text.asciiCasing present (stop_ok (oneNode [])) rfl rfl [.setBus false]
    ?_ ?_ still refundQuery rfl switchOne ⟨1⟩).mpr
  · exact .inl rfl
  · simp [deactivates]
  · simp [generated]

/-- Activated while the bus is down, the switch is gone once the bus is back. -/
theorem activation_lost_in_outage :
    KillSwitchService.activate Text.asciiCasing (oneNode [.setBus false]) 0 stopEverything switchOne ⟨0⟩ =
        .ok (stopRecord,afterStop [.setBus false] []) ∧
      matchesQuery Text.asciiCasing stopRecord refundQuery = true ∧
      ∃ later, (afterStop [.setBus false] [.setBus true]).nodes[0]? = some later ∧
        isBlocked Text.asciiCasing (afterStop [.setBus false] [.setBus true]) later refundQuery switchOne ⟨1⟩ =
          false :=
  ⟨stop_ok _,rfl,_,rfl,rfl⟩

end samples
end RevPilot.Safety
