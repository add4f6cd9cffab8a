import Custody.Library.Cursor
import Custody.Library.Database
import Custody.Library.Diagnostic
import Custody.Library.Indexing
import Custody.Proofs.Session.Holdings
import Mathlib.Order.Defs.Unbundled

/-!
# Models behind handles

What the library answers about files and positions depends on its script and on the models that
stand behind units and sets.  No request changes the script.  The models stay the same under all
requests but those that make a unit, a set or a database and the one that parses a unit again, and
none of them puts a model behind an index.
-/

namespace Custody
namespace Library

/-- The number of the model that something allocated was made from, or zero if there is none. -/
def Content.number : Content → Nat
  | .unit model => model
  | .set model => model
  | .database model => model
  | _ => 0

namespace State

/-- What model stands behind a handle is told by the content that was allocated. -/
theorem modelNumber_eq (state : State) (handle : Handle) :
    state.modelNumber handle =
      ((state.resource? handle).map Resource.content).elim 0 Content.number := by
  unfold modelNumber
  cases (state.resource? handle).map Resource.content with
  | none => rfl
  | some content => cases content <;> rfl

section Script

variable {before after : State} (script : after.script = before.script)
include script

/-- The files of a model are those of the script. -/
theorem filesIn_eq_of_script (origin : Handle) (model : Nat) :
    after.filesIn origin model = before.filesIn origin model := by
  unfold State.filesIn
  rw [script]

/-- A file handle stands for the same file under the same script. -/
theorem sourceFile_eq_of_script (file : FileHandle) :
    after.sourceFile file = before.sourceFile file := by
  rw [State.sourceFile, State.sourceFile, filesIn_eq_of_script script]

/-- A location reads the same where the same model stands behind the handle in which it lies. -/
theorem expand_eq_of_script {location : NativeLocation}
    (models : ∀ space, location.space = some space →
      after.modelNumber space = before.modelNumber space) :
    after.expand location = before.expand location := by
  unfold State.expand State.spot?
  cases inside : location.space with
  | none => rfl
  | some space =>
      have model := models space inside
      have files : after.files space = before.files space := by
        rw [State.files, State.files, model, filesIn_eq_of_script script]
      simp only [files, sourceFile_eq_of_script script]
      cases Source.spotAt? (before.files space) location.position with
      | none => rfl
      | some spot => simp only [Option.map_some, model]

end Script

/-- No models stand behind indexes. -/
def IsPlain (state : State) : Prop :=
  ∀ handle : Handle, handle.sort = .index → state.modelNumber handle = 0

/-- Two states of the library have one script, and no models have come to stand behind indexes. -/
structure SameScript (before after : State) : Prop where
  /-- The script is the same. -/
  script : after.script = before.script
  /-- No models have come to stand behind indexes. -/
  plain : before.IsPlain → after.IsPlain

/-- Two states of the library have one script, and the same models stand behind all handles but
those of indexes. -/
structure SameModels (before after : State) : Prop extends SameScript before after where
  /-- The models are the same. -/
  models : ∀ handle : Handle, handle.sort ≠ .index →
    after.modelNumber handle = before.modelNumber handle

namespace SameScript

variable {before middle after : State}

protected theorem refl (state : State) : SameScript state state := ⟨rfl, id⟩

/-- One script that lasts through two changes lasts through both. -/
protected theorem trans (first : SameScript before middle) (rest : SameScript middle after) :
    SameScript before after :=
  ⟨rest.script.trans first.script, rest.plain ∘ first.plain⟩

end SameScript

namespace SameModels

variable {before middle after : State}

/-- The script and all models are the same. -/
theorem of_modelNumber (script : after.script = before.script)
    (models : ∀ handle, after.modelNumber handle = before.modelNumber handle) :
    SameModels before after where
  script := script
  plain := fun plain handle sorted => (models handle).trans (plain handle sorted)
  models := fun handle _ => models handle

protected theorem refl (state : State) : SameModels state state := .of_modelNumber rfl fun _ => rfl

/-- Models that two changes leave alone are left alone by both. -/
protected theorem trans (first : SameModels before middle) (rest : SameModels middle after) :
    SameModels before after where
  toSameScript := first.toSameScript.trans rest.toSameScript
  models := fun handle sorted => (rest.models handle sorted).trans (first.models handle sorted)

/-- What does not touch the allocations leaves the models alone. -/
theorem of_resources (script : after.script = before.script)
    (resources : after.resources = before.resources) : SameModels before after :=
  .of_modelNumber script fun handle => by rw [modelNumber, modelNumber, resource?, resource?,
    resources]

/-- One more allocation leaves the models alone if it is made from none. -/
theorem of_allocated {resource : Resource} (modelless : resource.content.number = 0) :
    SameModels before { before with resources := before.resources ++ [resource] } := by
  refine .of_modelNumber rfl fun handle => ?_
  rw [modelNumber_eq, modelNumber_eq, resource?, resource?, List.find?_append]
  cases before.resources.find? fun resource => resource.handle = handle with
  | some found => rfl
  | none => by_cases same : resource.handle = handle <;> simp [same, modelless]

/-- Where no models stand behind indexes, all handles keep their models. -/
theorem modelNumber (same : SameModels before after) (plain : before.IsPlain) (handle : Handle) :
    after.modelNumber handle = before.modelNumber handle := by
  by_cases sorted : handle.sort = .index
  · rw [plain handle sorted, same.plain plain handle sorted]
  · exact same.models handle sorted

/-- A location reads the same. -/
theorem expand (same : SameModels before after) (plain : before.IsPlain)
    (location : NativeLocation) : after.expand location = before.expand location :=
  expand_eq_of_script same.script fun space _ => same.modelNumber plain space

end SameModels

/-- Something else than an index is allocated. -/
theorem SameScript.of_allocated {before : State} {resource : Resource}
    (sorted : resource.handle.sort ≠ .index) :
    SameScript before { before with resources := before.resources ++ [resource] } where
  script := rfl
  plain := by
    intro plain handle index
    have apart : resource.handle ≠ handle := by
      rintro rfl
      exact sorted index
    have modeled := plain handle index
    rw [modelNumber_eq, resource?] at modeled
    rw [modelNumber_eq, resource?, List.find?_append]
    cases present : before.resources.find? fun resource => resource.handle = handle with
    | some found =>
        rw [present] at modeled
        exact modeled
    | none => simp [apart]

instance : IsPreorder State SameModels where
  refl := .refl
  trans _ _ _ := .trans

instance : IsPreorder State SameScript where
  refl := .refl
  trans _ _ _ := .trans

section Resources

variable (state : State) (handle : Handle) (change : Resource → Resource)

variable {state handle} in
/-- An allocation is found under its own handle. -/
theorem handle_of_resource? {resource : Resource}
    (found : state.resource? handle = some resource) : resource.handle = handle := by
  unfold resource? at found
  have matched := List.find?_some found
  exact of_decide_eq_true matched

/-- The record of a changed handle is the changed record, and all others stay. -/
theorem resource?_modifyResource
    (named : ∀ resource, (change resource).handle = resource.handle) (other : Handle) :
    (state.modifyResource handle change).resource? other =
      (state.resource? other).map fun resource =>
        if resource.handle = handle then change resource else resource := by
  unfold resource? modifyResource
  rw [List.find?_map]
  refine congrArg (Option.map _)
    (congrArg (List.find? · state.resources) (funext fun resource => ?_))
  by_cases same : resource.handle = handle <;> simp [same, named]

/-- A change of other things than the content leaves the models alone. -/
theorem modelNumber_modifyResource
    (named : ∀ resource, (change resource).handle = resource.handle)
    (kept : ∀ resource, (change resource).content = resource.content) (other : Handle) :
    (state.modifyResource handle change).modelNumber other = state.modelNumber other := by
  have contents : ((state.modifyResource handle change).resource? other).map Resource.content =
      (state.resource? other).map Resource.content := by
    rw [resource?_modifyResource state handle change named, Option.map_map]
    refine congrArg (Option.map · (state.resource? other)) (funext fun resource => ?_)
    by_cases same : resource.handle = handle <;> simp [same, kept]
  rw [modelNumber, modelNumber, contents]

/-- A change of one handle leaves the models behind the others alone. -/
theorem modelNumber_modifyResource_of_ne
    (named : ∀ resource, (change resource).handle = resource.handle) {other : Handle}
    (apart : other ≠ handle) :
    (state.modifyResource handle change).modelNumber other = state.modelNumber other := by
  rw [modelNumber, modelNumber, resource?_modifyResource state handle change named]
  cases found : state.resource? other with
  | none => rfl
  | some resource => rw [Option.map_some, if_neg (handle_of_resource? found ▸ apart)]

/-- No model stands behind a handle after a change to something made from none. -/
theorem modelNumber_modifyResource_self
    (named : ∀ resource, (change resource).handle = resource.handle)
    (modelless : ∀ resource, (change resource).content.number = 0) :
    (state.modifyResource handle change).modelNumber handle = 0 := by
  rw [modelNumber_eq, resource?_modifyResource state handle change named]
  cases found : state.resource? handle with
  | none => rfl
  | some resource =>
      rw [Option.map_some, if_pos (handle_of_resource? found)]
      exact modelless resource

end Resources

end State

namespace Call

open State

variable {α β : Type} {relation : State → State → Prop}

/-- A request leaves the library in a relation to what it was. -/
def Leaves (relation : State → State → Prop) (request : Call α) : Prop :=
  ∀ state, relation state (Id.run (StateT.run request state)).2

namespace Leaves

protected theorem modify {change : State → State}
    (changed : ∀ state, relation state (change state)) :
    Leaves relation (modify change) := changed

/-- A relation may be weakened. -/
theorem mono {weaker : State → State → Prop} {request : Call α}
    (weakens : ∀ {before after}, relation before after → weaker before after)
    (first : Leaves relation request) : Leaves weaker request := fun state => weakens (first state)

/-- The script is the same where the models are. -/
theorem sameScript {request : Call α} (first : Leaves SameModels request) :
    Leaves SameScript request :=
  first.mono SameModels.toSameScript

variable [IsPreorder State relation]

protected theorem pure (value : α) : Leaves relation (pure value) := fun state =>
  refl_of relation state

protected theorem get : Leaves relation get := fun state => refl_of relation state

/-- A relation that lasts through two requests lasts through both in turn. -/
protected theorem bind {request : Call α} {next : α → Call β} (first : Leaves relation request)
    (rest : ∀ value, Leaves relation (next value)) : Leaves relation (request >>= next) :=
  fun state => trans_of relation (first state) (rest _ _)

/-- What is looked up after a request changes nothing. -/
protected theorem lookUp {request : Call α} (first : Leaves relation request)
    (answer : α → State → β) :
    Leaves relation (do let value ← request; let state ← get; return answer value state) :=
  first.bind fun _ => .bind .get fun _ => .pure _

end Leaves

section Basics

/-- An effect is no allocation. -/
theorem note_leaves (effect : Effect) : Leaves SameModels (note effect) :=
  .modify fun _ => .of_resources rfl rfl

/-- A use is recorded where it is a misuse, and is no allocation in any case. -/
theorem use_leaves (handle : Handle) : Leaves SameModels (use handle) := by
  refine .modify fun state => ?_
  split
  · exact .refl state
  · exact .of_resources rfl rfl

/-- A string that is lent is no allocation. -/
theorem lend_leaves (data : Option Bytes) : Leaves SameModels (lend data) :=
  .bind .get fun _ => .bind (.modify fun _ => .of_resources rfl rfl) fun _ => .pure _

theorem giveBack_leaves (lent : Lent) : Leaves SameModels (giveBack lent) :=
  .modify fun _ => .of_resources rfl rfl

/-- A string is given back where it has data. -/
theorem settle?_leaves (lent : Lent) : Leaves SameModels (settle? lent) := by
  unfold settle?
  split
  · exact .bind (giveBack_leaves lent) fun _ => .pure _
  · exact .pure _

theorem settle_leaves (lent : Lent) : Leaves SameModels (settle lent) :=
  .bind (settle?_leaves lent) fun _ => .pure _

/-- A disposal keeps what was allocated and what it was made from. -/
theorem dispose_leaves (handle : Handle) : Leaves SameModels (dispose handle) := by
  refine .bind .get fun _ => .bind (note_leaves _) fun _ => .modify fun state => ?_
  refine .of_modelNumber rfl (state.modelNumber_modifyResource handle
    (fun resource => { resource with live := false }) ?_ ?_)
  · exact fun _ => rfl
  · exact fun _ => rfl

/-- To allocate something that is made from no model leaves the models alone. -/
theorem allocate_leaves {content : Content} (modelless : content.number = 0) (kind : HandleKind)
    (parent : Option Handle) : Leaves SameModels (allocate kind parent content) :=
  .bind .get fun _ => .bind (.modify fun _ => .of_allocated modelless) fun _ => .pure _

/-- To allocate something else than an index puts no model behind an index. -/
theorem allocate_leavesScript {kind : HandleKind} (sorted : kind ≠ .index)
    (parent : Option Handle) (content : Content) :
    Leaves SameScript (allocate kind parent content) :=
  .bind .get fun _ => .bind (.modify fun _ => .of_allocated sorted) fun _ => .pure _

end Basics

section Units

/-- An index is made from no model. -/
theorem createIndex_leaves (excludeDeclarations displayDiagnostics : Bool) :
    Leaves SameModels (createIndex excludeDeclarations displayDiagnostics) := by
  refine .bind (note_leaves _) fun _ => .bind .get fun state => ?_
  split
  · exact .pure _
  · exact .bind (allocate_leaves rfl _ _) fun _ => .pure _

/-- The options of an index are only read here. -/
theorem globalOptions_leaves (index : Handle) : Leaves SameModels (globalOptions index) := by
  refine .bind (use_leaves index) fun _ => .bind .get fun state => ?_
  split <;> exact .pure _

/-- The options of an index are kept behind its handle. -/
theorem setGlobalOptions_leaves {index : Handle} (sorted : index.sort = .index) (options : Int) :
    Leaves SameModels (setGlobalOptions index options) := by
  refine .bind (use_leaves index) fun _ => .bind (note_leaves _) fun _ => .modify fun state => ?_
  have named (resource : Resource) :
      { resource with content := .index (unsignedWord options) }.handle = resource.handle := rfl
  refine ⟨⟨rfl, fun plain other otherSorted => ?_⟩, fun other otherSorted => ?_⟩
  · by_cases same : other = index
    · rw [same]
      exact state.modelNumber_modifyResource_self index _ named fun _ => rfl
    · rw [state.modelNumber_modifyResource_of_ne index _ named same]
      exact plain other otherSorted
  · refine state.modelNumber_modifyResource_of_ne index _ named ?_
    rintro rfl
    exact otherSorted sorted

/-- A new unit puts a model behind a new handle, which is not that of an index. -/
theorem produceUnit_leavesScript (index : Handle) : Leaves SameScript (produceUnit index) := by
  refine .bind .get fun state => ?_
  dsimp only
  split
  · exact .pure _
  · split
    · exact .pure _
    · exact .bind (allocate_leavesScript (by decide) _ _) fun _ => .pure _

/-- To parse a file puts a model behind the handle of the new unit. -/
theorem parse_leavesScript (full : Bool) (index : Handle) (filename : Option Bytes)
    (arguments : List Bytes) (unsaved : Option (List Slot)) (options : Int) :
    Leaves SameScript (parse full index filename arguments unsaved options) :=
  (use_leaves index).sameScript.bind fun _ => (note_leaves _).sameScript.bind fun _ =>
    produceUnit_leavesScript index

/-- A stored unit brings a model as well. -/
theorem loadUnit_leavesScript (index : Handle) (path : Bytes) :
    Leaves SameScript (loadUnit index path) :=
  (use_leaves index).sameScript.bind fun _ => (note_leaves _).sameScript.bind fun _ =>
    produceUnit_leavesScript index

/-- To parse a unit again puts no model behind an index. -/
theorem reparse_leavesScript {unit : Handle} (sorted : unit.sort ≠ .index)
    (unsaved : Option (List Slot)) (options : Int) :
    Leaves SameScript (reparse unit unsaved options) := by
  refine (use_leaves unit).sameScript.bind fun _ => (note_leaves _).sameScript.bind fun _ =>
    .bind .get fun before => .bind (.modify fun state => ⟨rfl, ?_⟩) fun _ => .pure _
  intro plain other index
  rw [modelNumber_modifyResource_of_ne]
  · exact plain other index
  · intro resource
    split
    · rfl
    · split <;> rfl
  · rintro rfl
    exact sorted index

/-- To save a unit changes nothing that was allocated. -/
theorem save_leaves (unit : Handle) (path : Bytes) (options : Int) :
    Leaves SameModels (save unit path options) :=
  .bind (use_leaves unit) fun _ => (note_leaves _).lookUp _

theorem unitModel_leaves (unit : Handle) : Leaves SameModels (unitModel unit) :=
  (use_leaves _).lookUp _

theorem defaultReparseOptions_leaves (unit : Handle) :
    Leaves SameModels (defaultReparseOptions unit) := .bind (unitModel_leaves unit) fun _ => .pure _

theorem defaultSaveOptions_leaves (unit : Handle) :
    Leaves SameModels (defaultSaveOptions unit) := .bind (unitModel_leaves unit) fun _ => .pure _

theorem unitSpelling_leaves (unit : Handle) : Leaves SameModels (unitSpelling unit) :=
  .bind (unitModel_leaves unit) fun _ => lend_leaves _

end Units

section Sources

/-- A location that lies nowhere uses nothing. -/
theorem useSpace_leaves (location : NativeLocation) : Leaves SameModels (useSpace location) := by
  unfold useSpace
  split
  · exact .pure _
  · exact use_leaves _

theorem fileNamed_leaves (unit : Handle) (name : Bytes) : Leaves SameModels (fileNamed unit name) :=
  (use_leaves _).lookUp _

theorem fileName_leaves (file : FileHandle) : Leaves SameModels (fileName file) :=
  .bind (use_leaves _) fun _ => .bind .get fun _ => lend_leaves _

theorem fileTime_leaves (file : FileHandle) : Leaves SameModels (fileTime file) :=
  (use_leaves _).lookUp _

theorem sameFile_leaves (left right : FileHandle) : Leaves SameModels (sameFile left right) :=
  .bind (use_leaves _) fun _ => (use_leaves _).lookUp _

theorem locationOfOffset_leaves (unit : Handle) (file : FileHandle) (offset : Nat) :
    Leaves SameModels (locationOfOffset unit file offset) :=
  .bind (use_leaves _) fun _ => (use_leaves _).lookUp _

/-- A position is turned into an offset by the files of the script. -/
theorem locationOfPosition_leaves (unit : Handle) (file : FileHandle) (line column : Nat) :
    Leaves SameModels (locationOfPosition unit file line column) :=
  .bind .get fun _ => locationOfOffset_leaves unit file _

/-- Only the space of a location is used when it is expanded. -/
theorem expansion_leaves (location : NativeLocation) : Leaves SameModels (expansion location) :=
  (useSpace_leaves location).lookUp _

/-- A location is read as the library has it after the request. -/
theorem expansion_fst (location : NativeLocation) (state : State) :
    (Id.run (StateT.run (expansion location) state)).1 =
      (Id.run (StateT.run (expansion location) state)).2.expand location := by
  obtain ⟨space, position⟩ := location
  cases space <;> rfl

theorem isFromMainFile_leaves (location : NativeLocation) :
    Leaves SameModels (isFromMainFile location) := (useSpace_leaves location).lookUp _

theorem isInSystemHeader_leaves (location : NativeLocation) :
    Leaves SameModels (isInSystemHeader location) := (useSpace_leaves location).lookUp _

end Sources

section Diagnostics

theorem diagnosticCount_leaves (unit : Handle) : Leaves SameModels (diagnosticCount unit) :=
  (use_leaves _).lookUp _

/-- A diagnostic of a unit is allocated, but made from no model of its own. -/
theorem diagnosticAt_leaves (unit : Handle) (position : Nat) :
    Leaves SameModels (diagnosticAt unit position) := by
  refine .bind (use_leaves unit) fun _ => .bind .get fun state => ?_
  split
  · exact .pure _
  · exact .bind (allocate_leaves rfl _ _) fun _ => .pure _

theorem setCount_leaves (set : Handle) : Leaves SameModels (setCount set) := (use_leaves _).lookUp _

/-- A diagnostic of a set is borrowed and needs no allocation. -/
theorem setItem_leaves (set : Handle) (position : Nat) : Leaves SameModels (setItem set position) :=
  .bind (use_leaves set) fun _ => .pure _

/-- The notes below a diagnostic are borrowed as well. -/
theorem childDiagnostics_leaves (diagnostic : Handle) :
    Leaves SameModels (childDiagnostics diagnostic) := (use_leaves _).lookUp _

theorem diagnosticModel_leaves (diagnostic : Handle) :
    Leaves SameModels (diagnosticModel diagnostic) := (use_leaves _).lookUp _

theorem diagnosticLocation_leaves (diagnostic : Handle) :
    Leaves SameModels (diagnosticLocation diagnostic) :=
  (diagnosticModel_leaves diagnostic).lookUp _

theorem diagnosticRanges_leaves (diagnostic : Handle) :
    Leaves SameModels (diagnosticRanges diagnostic) := (diagnosticModel_leaves diagnostic).lookUp _

theorem replacementCount_leaves (diagnostic : Handle) :
    Leaves SameModels (replacementCount diagnostic) :=
  .bind (diagnosticModel_leaves diagnostic) fun _ => .pure _

/-- The text of a replacement is lent. -/
theorem replacementAt_leaves (diagnostic : Handle) (position : Nat) :
    Leaves SameModels (replacementAt diagnostic position) :=
  .bind (diagnosticModel_leaves diagnostic) fun _ => (lend_leaves _).lookUp _

/-- One string is lent or two. -/
theorem diagnosticOption_leaves (diagnostic : Handle) (withDisable : Bool) :
    Leaves SameModels (diagnosticOption diagnostic withDisable) := by
  refine .bind (diagnosticModel_leaves diagnostic) fun _ => .bind (lend_leaves _) fun _ => ?_
  split
  · exact .bind (lend_leaves _) fun _ => .pure _
  · exact .pure _

theorem formatDiagnostic_leaves (diagnostic : Handle) (options : Int) :
    Leaves SameModels (formatDiagnostic diagnostic options) :=
  .bind (diagnosticModel_leaves diagnostic) fun _ => lend_leaves _

/-- A set that is loaded puts a model behind its handle. -/
theorem loadDiagnostics_leavesScript (path : Bytes) :
    Leaves SameScript (loadDiagnostics path) := by
  refine (note_leaves _).sameScript.bind fun _ => .bind .get fun state => ?_
  dsimp only
  split
  · exact .bind (.pure _) fun _ => (lend_leaves _).sameScript.bind fun _ => .pure _
  · exact .bind (.bind (allocate_leavesScript (by decide) _ _) fun _ => .pure _) fun _ =>
      (lend_leaves _).sameScript.bind fun _ => .pure _

end Diagnostics

section Databases

/-- A database puts a model behind its handle. -/
theorem openDatabase_leavesScript (path : Bytes) : Leaves SameScript (openDatabase path) := by
  refine (note_leaves _).sameScript.bind fun _ => .bind .get fun state => ?_
  dsimp only
  split
  · exact .pure _
  · exact .bind (allocate_leavesScript (by decide) _ _) fun _ => .pure _

/-- A list of commands is allocated, but made from no model. -/
theorem listCommands_leaves (items : List (Option CommandModel)) :
    Leaves SameModels (listCommands items) := by
  refine .bind .get fun state => ?_
  split
  · exact .pure _
  · exact .bind (allocate_leaves rfl _ _) fun _ => .pure _

theorem allCommands_leaves (database : Handle) : Leaves SameModels (allCommands database) :=
  .bind (use_leaves database) fun _ => .bind (note_leaves _) fun _ => .bind .get fun _ =>
    listCommands_leaves _

theorem commandsFor_leaves (database : Handle) (filename : Bytes) :
    Leaves SameModels (commandsFor database filename) :=
  .bind (use_leaves database) fun _ => .bind (note_leaves _) fun _ => .bind .get fun _ =>
    listCommands_leaves _

theorem commandItems_leaves (commands : Handle) : Leaves SameModels (commandItems commands) :=
  (use_leaves _).lookUp _

end Databases

section Cursors

theorem rootCursor_leaves (unit : Handle) : Leaves SameModels (rootCursor unit) :=
  (use_leaves _).lookUp _

theorem cursorModel_leaves (cursor : NativeCursor) : Leaves SameModels (cursorModel cursor) :=
  (use_leaves _).lookUp _

theorem cursorExtent_leaves (cursor : NativeCursor) : Leaves SameModels (cursorExtent cursor) :=
  (cursorModel_leaves cursor).lookUp _

theorem cursorLocation_leaves (cursor : NativeCursor) : Leaves SameModels (cursorLocation cursor) :=
  (cursorModel_leaves cursor).lookUp _

theorem relatedCursor_leaves (cursor : NativeCursor) (relation : CursorModel → Option Nat) :
    Leaves SameModels (relatedCursor cursor relation) := (cursorModel_leaves cursor).lookUp _

/-- The visitor is no part of the library, so a visit changes nothing in it. -/
theorem visitChildren_leaves {σ : Type} (cursor : Option NativeCursor) (visitor : CursorVisitor σ)
    (start : σ) : Leaves SameModels (visitChildren cursor visitor start) := by
  cases cursor with
  | none => exact .pure _
  | some cursor => exact (use_leaves _).lookUp _

/-- The same is so of the visitor of inclusions. -/
theorem visitInclusions_leaves {σ : Type} (unit : Handle)
    (visitor : FileHandle → List NativeLocation → σ → σ) (start : σ) :
    Leaves SameModels (visitInclusions unit visitor start) := (use_leaves _).lookUp _

end Cursors

section Tokens

/-- A token buffer is no allocation of a handle. -/
theorem tokenize_leaves (unit : Handle) (range : NativeRange) :
    Leaves SameModels (tokenize unit range) := by
  refine .bind (use_leaves unit) fun _ state => ?_
  change SameModels state (Id.run (StateT.run (if _ then pure none else _) state)).2
  split
  · exact .refl state
  · exact .of_resources rfl rfl

/-- Neither is its disposal. -/
theorem disposeTokens_leaves (unit : Handle) (buffer : TokenBuffer) :
    Leaves SameModels (disposeTokens unit buffer) :=
  .bind (use_leaves unit) fun _ => .bind (note_leaves _) fun _ =>
    .modify fun _ => .of_resources rfl rfl

theorem tokenSpelling_leaves (unit : Handle) (token : NativeToken) :
    Leaves SameModels (tokenSpelling unit token) :=
  .bind (use_leaves unit) fun _ => .bind .get fun _ => lend_leaves _

theorem tokenExtent_leaves (unit : Handle) (token : NativeToken) :
    Leaves SameModels (tokenExtent unit token) := (use_leaves _).lookUp _

theorem tokenLocation_leaves (unit : Handle) (token : NativeToken) :
    Leaves SameModels (tokenLocation unit token) :=
  .bind (tokenExtent_leaves unit token) fun _ => .pure _

end Tokens

section Indexing

/-- An action is allocated, but made from no model. -/
theorem createAction_leaves (index : Handle) : Leaves SameModels (createAction index) := by
  refine .bind (use_leaves index) fun _ => .bind (note_leaves _) fun _ => .bind .get fun state => ?_
  split
  · exact .pure _
  · exact .bind (allocate_leaves rfl _ _) fun _ => .pure _

/-- The stations that are installed are not among the allocations. -/
theorem beginIndexing_leaves (action unit : Handle) (options : Int) (installed : List Station) :
    Leaves SameModels (beginIndexing action unit options installed) :=
  .bind (use_leaves action) fun _ => .bind (use_leaves unit) fun _ => .bind (note_leaves _)
    fun _ => .bind (.modify fun _ => .of_resources rfl rfl) fun _ => .bind .get fun _ => .pure _

end Indexing

end Call
end Library
end Custody
