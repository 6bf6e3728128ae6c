import Mathlib
import Muster.Proofs.JsonSpelling

/-!
The JSON values that spell a record, for each type of records. They are the ones that its reader
accepts, and what its writer makes is among them.
-/

namespace Muster

open Json

def Role.SpelledBy (role : Role) : Json → Prop :=
  IsWord role.word

def FinalStatus.SpelledBy : FinalStatus → Json → Prop
  | .succeeded => IsWord "succeeded"
  | .failed => IsWord "failed"
  | .killed => IsWord "killed"

def Priority.SpelledBy (priority : Priority) : Json → Prop :=
  IsCount priority.level

def ExitStatus.SpelledBy (status : ExitStatus) : Json → Prop :=
  IsInteger status.code.toInt

def ContainerId.SpelledBy (id : ContainerId) : Json → Prop :=
  IsText id.name

def ResourceShape.SpelledBy (shape : ResourceShape) : Json → Prop :=
  HasFields [("memory_mb", IsInteger shape.memoryMb.toNat), ("vcores", IsCount shape.vcores)]

def PlacementConstraint.SpelledBy (constraint : PlacementConstraint) : Json → Prop :=
  HasFields [("hosts", AreTexts constraint.hosts),
    ("relax_locality", IsFlag constraint.relaxLocality)]

def ContainerRequest.SpelledBy (request : ContainerRequest) : Json → Prop :=
  HasFields [("role", request.role.SpelledBy), ("shape", request.shape.SpelledBy),
    ("placement", request.placement.SpelledBy), ("racks", AreTexts request.racks),
    ("priority", request.priority.SpelledBy)]

def Container.SpelledBy (container : Container) : Json → Prop :=
  HasFields [("id", container.id.SpelledBy), ("host", IsText container.host),
    ("node_http_address", IsText container.nodeHttpAddress), ("shape", container.shape.SpelledBy),
    ("priority", container.priority.SpelledBy)]

def ContainerStatus.SpelledBy (status : ContainerStatus) : Json → Prop :=
  HasFields [("id", status.id.SpelledBy), ("exit_status", status.exitStatus.SpelledBy),
    ("diagnostics", IsText status.diagnostics)]

def NodeReport.SpelledBy (report : NodeReport) : Json → Prop :=
  HasFields [("host", IsText report.host), ("healthy", IsFlag report.healthy)]

def LocalResource.SpelledBy (resource : LocalResource) : Json → Prop :=
  HasFields [("uri", IsText resource.uri)]

def LaunchContext.SpelledBy (context : LaunchContext) : Json → Prop :=
  HasFields [("commands", AreTexts context.commands),
    ("local_resources", context.localResources.SpelledBy LocalResource.SpelledBy),
    ("environment", context.environment.SpelledBy IsText)]

/-! ## Reading -/

theorem exists_four {α : Type} {items : List α} (sized : items.length = 4) :
    ∃ a b c d, items = [a, b, c, d] := by
  obtain ⟨a, rest, rfl⟩ := List.exists_cons_of_length_eq_add_one sized
  obtain ⟨b, c, d, rfl⟩ := List.length_eq_three.mp (Nat.succ.inj sized)
  exact ⟨a, b, c, d, rfl⟩

theorem exists_five {α : Type} {items : List α} (sized : items.length = 5) :
    ∃ a b c d e, items = [a, b, c, d, e] := by
  obtain ⟨a, rest, rfl⟩ := List.exists_cons_of_length_eq_add_one sized
  obtain ⟨b, c, d, e, rfl⟩ := exists_four (Nat.succ.inj sized)
  exact ⟨a, b, c, d, e, rfl⟩

theorem Role.ofJson?_eq_some_iff {role : Role} {json : Json} :
    ofJson? json = some role ↔ role.SpelledBy json := by
  simp only [ofJson?, Option.bind_eq_bind, Option.bind_eq_some_iff, alternative?_eq_some_iff,
    SpelledBy]
  constructor
  · rintro ⟨word, spelled, named⟩
    split at named
    all_goals cases named
    all_goals exact spelled
  · intro spelled
    exact ⟨_, spelled, by cases role <;> rfl⟩

theorem FinalStatus.ofJson?_eq_some_iff {status : FinalStatus} {json : Json} :
    ofJson? json = some status ↔ status.SpelledBy json := by
  simp only [ofJson?, Option.bind_eq_bind, Option.bind_eq_some_iff, alternative?_eq_some_iff]
  constructor
  · rintro ⟨word, spelled, named⟩
    split at named
    all_goals cases named
    all_goals exact spelled
  · intro spelled
    cases status
    all_goals exact ⟨_, spelled, rfl⟩

theorem Priority.ofJson?_eq_some_iff {priority : Priority} {json : Json} :
    ofJson? json = some priority ↔ priority.SpelledBy json := by
  cases priority
  simp [ofJson?, SpelledBy, uint32?_eq_some_iff]

theorem ExitStatus.ofJson?_eq_some_iff {status : ExitStatus} {json : Json} :
    ofJson? json = some status ↔ status.SpelledBy json := by
  cases status
  simp [ofJson?, SpelledBy, int32?_eq_some_iff]

theorem ContainerId.ofJson?_eq_some_iff {id : ContainerId} {json : Json} :
    ofJson? json = some id ↔ id.SpelledBy json := by
  cases id
  simp [ofJson?, SpelledBy, text?_eq_some_iff]

theorem ResourceShape.ofJson?_eq_some_iff {shape : ResourceShape} {json : Json} :
    ofJson? json = some shape ↔ shape.SpelledBy json := by
  unfold ofJson? SpelledBy
  refine fields?_bind_iff rfl fun items sized => ?_
  obtain ⟨memoryMb, vcores, rfl⟩ := List.length_eq_two.mp sized
  cases shape
  simp [Option.bind_eq_some_iff, uint32?_eq_some_iff, uint64?_eq_some_iff]

theorem PlacementConstraint.ofJson?_eq_some_iff {constraint : PlacementConstraint} {json : Json} :
    ofJson? json = some constraint ↔ constraint.SpelledBy json := by
  unfold ofJson? SpelledBy
  refine fields?_bind_iff rfl fun items sized => ?_
  obtain ⟨hosts, relaxLocality, rfl⟩ := List.length_eq_two.mp sized
  cases constraint
  simp [Option.bind_eq_some_iff, list?_text?_eq_some_iff, bool?_eq_some_iff]

theorem ContainerRequest.ofJson?_eq_some_iff {request : ContainerRequest} {json : Json} :
    ofJson? json = some request ↔ request.SpelledBy json := by
  unfold ofJson? SpelledBy
  refine fields?_bind_iff rfl fun items sized => ?_
  obtain ⟨role, shape, placement, racks, priority, rfl⟩ := exists_five sized
  cases request
  simp [Option.bind_eq_some_iff, Role.ofJson?_eq_some_iff, ResourceShape.ofJson?_eq_some_iff,
    PlacementConstraint.ofJson?_eq_some_iff, list?_text?_eq_some_iff,
    Priority.ofJson?_eq_some_iff]

theorem Container.ofJson?_eq_some_iff {container : Container} {json : Json} :
    ofJson? json = some container ↔ container.SpelledBy json := by
  unfold ofJson? SpelledBy
  refine fields?_bind_iff rfl fun items sized => ?_
  obtain ⟨id, host, nodeHttpAddress, shape, priority, rfl⟩ := exists_five sized
  cases container
  simp [Option.bind_eq_some_iff, ContainerId.ofJson?_eq_some_iff, text?_eq_some_iff,
    ResourceShape.ofJson?_eq_some_iff, Priority.ofJson?_eq_some_iff]

theorem ContainerStatus.ofJson?_eq_some_iff {status : ContainerStatus} {json : Json} :
    ofJson? json = some status ↔ status.SpelledBy json := by
  unfold ofJson? SpelledBy
  refine fields?_bind_iff rfl fun items sized => ?_
  obtain ⟨id, exitStatus, diagnostics, rfl⟩ := List.length_eq_three.mp sized
  cases status
  simp [Option.bind_eq_some_iff, ContainerId.ofJson?_eq_some_iff, text?_eq_some_iff,
    ExitStatus.ofJson?_eq_some_iff]

theorem NodeReport.ofJson?_eq_some_iff {report : NodeReport} {json : Json} :
    ofJson? json = some report ↔ report.SpelledBy json := by
  unfold ofJson? SpelledBy
  refine fields?_bind_iff rfl fun items sized => ?_
  obtain ⟨host, healthy, rfl⟩ := List.length_eq_two.mp sized
  cases report
  simp [Option.bind_eq_some_iff, text?_eq_some_iff, bool?_eq_some_iff]

theorem LocalResource.ofJson?_eq_some_iff {resource : LocalResource} {json : Json} :
    ofJson? json = some resource ↔ resource.SpelledBy json := by
  unfold ofJson? SpelledBy
  refine fields?_bind_iff rfl fun items sized => ?_
  obtain ⟨uri, rfl⟩ := List.length_eq_one_iff.mp sized
  cases resource
  simp [Option.bind_eq_some_iff, text?_eq_some_iff]

theorem LaunchContext.ofJson?_eq_some_iff {context : LaunchContext} {json : Json} :
    ofJson? json = some context ↔ context.SpelledBy json := by
  unfold ofJson? SpelledBy
  refine fields?_bind_iff rfl fun items sized => ?_
  obtain ⟨commands, localResources, environment, rfl⟩ := List.length_eq_three.mp sized
  cases context
  simp [Option.bind_eq_some_iff, list?_text?_eq_some_iff,
    Dict.ofJson?_eq_some_iff LocalResource.ofJson?_eq_some_iff,
    Dict.ofJson?_eq_some_iff text?_eq_some_iff]

/-! ## Writing -/

theorem Role.spelledBy_toJson (role : Role) : role.SpelledBy role.toJson :=
  .plain

theorem FinalStatus.spelledBy_toJson (status : FinalStatus) : status.SpelledBy status.toJson := by
  cases status
  all_goals exact .plain

theorem ResourceShape.spelledBy_toJson (shape : ResourceShape) : shape.SpelledBy shape.toJson :=
  hasFields_object rfl (by simp) (by simp [IsInteger, IsCount])

theorem PlacementConstraint.spelledBy_toJson (constraint : PlacementConstraint) :
    constraint.SpelledBy constraint.toJson :=
  hasFields_object rfl (by simp) (by simp [AreTexts, IsFlag])

theorem ContainerRequest.spelledBy_toJson (request : ContainerRequest) :
    request.SpelledBy request.toJson := by
  refine hasFields_object rfl (by simp) ?_
  simp [request.role.spelledBy_toJson, request.shape.spelledBy_toJson,
    request.placement.spelledBy_toJson, AreTexts, Priority.SpelledBy, Priority.toJson, IsCount,
    IsInteger]

theorem Container.spelledBy_toJson (container : Container) :
    container.SpelledBy container.toJson := by
  refine hasFields_object rfl (by simp) ?_
  simp [container.shape.spelledBy_toJson, ContainerId.SpelledBy, ContainerId.toJson, IsText,
    Priority.SpelledBy, Priority.toJson, IsCount, IsInteger]

theorem ContainerStatus.spelledBy_toJson (status : ContainerStatus) :
    status.SpelledBy status.toJson := by
  refine hasFields_object rfl (by simp) ?_
  simp [ContainerId.SpelledBy, ContainerId.toJson, IsText, ExitStatus.SpelledBy,
    ExitStatus.toJson, IsInteger]

theorem NodeReport.spelledBy_toJson (report : NodeReport) : report.SpelledBy report.toJson :=
  hasFields_object rfl (by simp) (by simp [IsText, IsFlag])

theorem LocalResource.spelledBy_toJson (resource : LocalResource) :
    resource.SpelledBy resource.toJson :=
  hasFields_object rfl (by simp) (by simp [IsText])

theorem LaunchContext.spelledBy_toJson (context : LaunchContext) :
    context.SpelledBy context.toJson := by
  have files := Dict.spelledBy_toJson LocalResource.spelledBy_toJson context.localResources
  have texts : context.environment.SpelledBy IsText (context.environment.toJson string) :=
    Dict.spelledBy_toJson isText_string _
  refine hasFields_object rfl (by simp) ?_
  simp [AreTexts, files, texts]

end Muster
