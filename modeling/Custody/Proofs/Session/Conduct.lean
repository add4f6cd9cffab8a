import Custody.Proofs.Library.Calls
import Custody.Proofs.Session.Moves

/-!
# The conduct of operations

An operation of a session is described by its result and by the holdings that it
leaves.  It reads when it leaves the holdings alone, and it runs when it changes
them by a course of moves, whether it succeeds or fails.  Operations that are put
together from reading or running ones read or run.
-/

namespace Custody

/-- A file belongs to its owner: the owner was made for the unit or set of the file. -/
def File.Anchored (made : List Handle) (file : File) : Prop :=
  made[file.owner]? = some file.native.origin

theorem File.Anchored.mono {made later : List Handle} {file : File}
    (anchored : file.Anchored made) (grown : made <+: later) : file.Anchored later :=
  Holdings.getElem?_of_prefix grown anchored

/-- The files that were found when locations were read belong to the owners of the locations. -/
def Session.Tidy (session : Session) : Prop :=
  ∀ entry ∈ session.expansions, ∀ file, entry.2.file = some file →
    file.Anchored session.made ∧ file.owner = entry.1.owner

instance (session : Session) : Decidable session.Tidy :=
  inferInstanceAs (Decidable (∀ entry ∈ session.expansions, ∀ file ∈ entry.2.file,
    session.made[file.owner]? = some file.native.origin ∧ file.owner = entry.1.owner))

namespace Facade

variable {α β : Type} {holdings : Holdings}

/-- An operation on given holdings leaves a result and holdings of a certain kind. -/
def Ensures (holdings : Holdings) (action : Facade α)
    (post : Except Failure α → Holdings → Prop) : Prop :=
  ∀ session : Session, session.holdings = holdings → session.Tidy →
    (action.outcome session).2.Tidy ∧
      post (action.outcome session).1 (action.outcome session).2.holdings

/-- An operation leaves the holdings alone, and its value is of a certain kind. -/
def Reads (holdings : Holdings) (action : Facade α) (fits : α → Prop) : Prop :=
  Ensures holdings action fun result later =>
    later = holdings ∧ ∀ value, result = .ok value → fits value

/-- An operation changes the holdings by a course of moves, and its value fits the handles that
holders were made for. -/
def Runs (holdings : Holdings) (action : Facade α) (fits : List Handle → α → Prop) : Prop :=
  Ensures holdings action fun result later =>
    holdings.Course later ∧ ∀ value, result = .ok value → fits later.made value

theorem outcome_bind (action : Facade α) (next : α → Facade β) (session : Session) :
    (action >>= next).outcome session =
      match action.outcome session with
      | (.ok value, after) => (next value).outcome after
      | (.error failure, after) => (.error failure, after) := by
  have expanded : (action >>= next).outcome session =
      Id.run (StateT.run (ExceptT.bindCont next (action.outcome session).1)
        (action.outcome session).2) := rfl
  rw [expanded]
  rcases action.outcome session with ⟨result, after⟩
  cases result <;> rfl

namespace Ensures

theorem pure {post : Except Failure α → Holdings → Prop} {value : α}
    (holds : post (.ok value) holdings) : Ensures holdings (Pure.pure value) post := by
  rintro session rfl tidy
  exact ⟨tidy, holds⟩

theorem throw {post : Except Failure α → Holdings → Prop} {failure : Failure}
    (holds : post (.error failure) holdings) :
    Ensures holdings (MonadExcept.throw failure) post := by
  rintro session rfl tidy
  exact ⟨tidy, holds⟩

theorem mono {action : Facade α} {post weaker : Except Failure α → Holdings → Prop}
    (first : Ensures holdings action post)
    (weakens : ∀ result later, post result later → weaker result later) :
    Ensures holdings action weaker :=
  fun session same tidy => (first session same tidy).imp_right (weakens _ _)

theorem bind
    {action : Facade α}
    {next : α → Facade β}
    {middle : Except Failure α → Holdings → Prop}
    {post : Except Failure β → Holdings → Prop}
    (first : Ensures holdings action middle)
    (succeeded : ∀ value later, middle (.ok value) later → Ensures later (next value) post)
    (failed : ∀ failure later, middle (.error failure) later → post (.error failure) later) :
    Ensures holdings (action >>= next) post := by
  intro session same tidy
  obtain ⟨tidyAfter, holds⟩ := first session same tidy
  rw [outcome_bind]
  rcases reached : action.outcome session with ⟨result, after⟩
  rw [reached] at tidyAfter holds
  cases result with
  | ok value => exact succeeded value _ holds after rfl tidyAfter
  | error failure => exact ⟨tidyAfter, failed failure _ holds⟩

/-- Nothing follows after a failure. -/
theorem throwThen {next : α → Facade β} {failure : Failure}
    {post : Except Failure β → Holdings → Prop} (holds : post (.error failure) holdings) :
    Ensures holdings (MonadExcept.throw failure >>= next) post := by
  rintro session rfl tidy
  exact ⟨tidy, holds⟩

/-- Looking at the session never fails. -/
theorem getThen {next : Session → Facade β} {post : Except Failure β → Holdings → Prop}
    (rest : ∀ session : Session, session.holdings = holdings → session.Tidy →
      Ensures holdings (next session) post) :
    Ensures holdings (get >>= next) post :=
  fun session same tidy => rest session same tidy session same tidy

theorem attempt {action : Facade α} {post : Except Failure α → Holdings → Prop}
    (first : Ensures holdings action post) :
    Ensures holdings (Facade.attempt action) fun result later =>
      ∃ inner, result = .ok inner ∧ post inner later := by
  intro session same tidy
  obtain ⟨tidyAfter, holds⟩ := first session same tidy
  exact ⟨tidyAfter, _, rfl, holds⟩

end Ensures

namespace Reads

theorem pure {fits : α → Prop} {value : α} (holds : fits value) :
    Reads holdings (Pure.pure value) fits := by
  refine Ensures.pure ⟨rfl, ?_⟩
  rintro _ ⟨⟩
  exact holds

theorem throw {fits : α → Prop} (failure : Failure) :
    Reads holdings (MonadExcept.throw failure) fits := by
  refine Ensures.throw ⟨rfl, ?_⟩
  rintro _ ⟨⟩

theorem mono {action : Facade α} {fits weaker : α → Prop} (first : Reads holdings action fits)
    (weakens : ∀ value, fits value → weaker value) : Reads holdings action weaker :=
  Ensures.mono first fun _ _ ⟨same, holds⟩ =>
    ⟨same, fun value succeeded => weakens value (holds value succeeded)⟩

theorem trivial {action : Facade α} {fits : α → Prop} (first : Reads holdings action fits) :
    Reads holdings action fun _ => True := first.mono fun _ _ => True.intro

/-- After an operation that reads, another one follows on the same holdings. -/
theorem andThen
    {action : Facade α}
    {next : α → Facade β}
    {middle : α → Prop}
    {post : Except Failure β → Holdings → Prop}
    (first : Reads holdings action middle)
    (succeeded : ∀ value, middle value → Ensures holdings (next value) post)
    (failed : ∀ failure, post (.error failure) holdings) :
    Ensures holdings (action >>= next) post := by
  refine Ensures.bind first ?_ ?_
  · rintro value _ ⟨rfl, holds⟩
    exact succeeded value (holds value rfl)
  · rintro failure _ ⟨rfl, _⟩
    exact failed failure

theorem bind
    {action : Facade α}
    {next : α → Facade β}
    {middle : α → Prop}
    {fits : β → Prop}
    (first : Reads holdings action middle)
    (rest : ∀ value, middle value → Reads holdings (next value) fits) :
    Reads holdings (action >>= next) fits :=
  first.andThen rest fun _ => ⟨rfl, by simp⟩

theorem throwThen {next : α → Facade β} {fits : β → Prop} (failure : Failure) :
    Reads holdings (MonadExcept.throw failure >>= next) fits :=
  Ensures.throwThen ⟨rfl, by simp⟩

/-- An operation that reads can be followed by one that runs. -/
theorem thenRuns
    {action : Facade α}
    {next : α → Facade β}
    {middle : α → Prop}
    {fits : List Handle → β → Prop}
    (first : Reads holdings action middle)
    (rest : ∀ value, middle value → Runs holdings (next value) fits) :
    Runs holdings (action >>= next) fits :=
  first.andThen rest fun _ => ⟨.refl, by simp⟩

/-- Reading is running without a move. -/
theorem runs {action : Facade α} {fits : α → Prop} {weaker : List Handle → α → Prop}
    (first : Reads holdings action fits)
    (weakens : ∀ value, fits value → weaker holdings.made value) :
    Runs holdings action weaker := by
  refine Ensures.mono first ?_
  rintro result _ ⟨rfl, holds⟩
  exact ⟨.refl, fun value succeeded => weakens value (holds value succeeded)⟩

theorem get : Reads holdings (get : Facade Session) fun session =>
    session.holdings = holdings ∧ session.Tidy := by
  intro session same tidy
  refine ⟨tidy, same, ?_⟩
  rintro _ ⟨⟩
  exact ⟨same, tidy⟩

/-- A change of what the holdings do not mention. -/
theorem modify {change : Session → Session}
    (keeps : ∀ session, (change session).holdings = session.holdings)
    (keepsTidy : ∀ session, session.holdings = holdings → session.Tidy → (change session).Tidy) :
    Reads holdings (modify change : Facade Unit) fun _ => True := by
  intro session same tidy
  exact ⟨keepsTidy session same tidy, (keeps session).trans same, fun _ _ => True.intro⟩

/-- A change to another session with the same holdings. -/
theorem set {session : Session} (same : session.holdings = holdings) (tidy : session.Tidy) :
    Reads holdings (set session : Facade PUnit) fun _ => True :=
  fun _ _ _ => ⟨tidy, same, fun _ _ => True.intro⟩

theorem ofExcept (result : Except Failure α) :
    Reads holdings (Facade.ofExcept result) fun value => result = .ok value := by
  cases result with
  | ok value => exact .pure rfl
  | error failure => exact .throw failure

theorem attempt {action : Facade α} {fits : α → Prop} (first : Reads holdings action fits) :
    Reads holdings (Facade.attempt action) fun result =>
      ∀ value, result = .ok value → fits value := by
  refine Ensures.mono (Ensures.attempt first) ?_
  rintro _ _ ⟨inner, rfl, rfl, holds⟩
  refine ⟨rfl, ?_⟩
  rintro _ ⟨⟩
  exact holds

theorem ite {condition : Prop} [Decidable condition] {first second : Facade α} {fits : α → Prop}
    (whenTrue : condition → Reads holdings first fits)
    (whenFalse : ¬ condition → Reads holdings second fits) :
    Reads holdings (if condition then first else second) fits := by
  split
  · next holds => exact whenTrue holds
  · next fails => exact whenFalse fails

theorem mapM {items : List α} {change : α → Facade β} {fits : β → Prop}
    (each : ∀ item ∈ items, Reads holdings (change item) fits) :
    Reads holdings (items.mapM change) fun values => ∀ value ∈ values, fits value := by
  induction items with
  | nil => exact .pure (by simp)
  | cons item rest inductionHypothesis =>
      rw [List.mapM_cons]
      refine (each item (by simp)).bind fun first holds => ?_
      refine (inductionHypothesis fun other member => each other (by simp [member])).bind ?_
      intro others allHold
      refine .pure fun value member => ?_
      rcases List.mem_cons.mp member with rfl | later
      · exact holds
      · exact allHold value later

theorem mapM_trivial {items : List α} {change : α → Facade β}
    (each : ∀ item ∈ items, Reads holdings (change item) fun _ => True) :
    Reads holdings (items.mapM change) fun _ => True := (mapM each).trivial

theorem optionMapM {item : Option α} {change : α → Facade β} {fits : β → Prop}
    (each : ∀ value, item = some value → Reads holdings (change value) fits) :
    Reads holdings (item.mapM change) fun found => ∀ value, found = some value → fits value := by
  cases item with
  | none => exact .pure (by simp)
  | some value =>
      refine (each value rfl).bind fun found holds => .pure ?_
      rintro _ ⟨⟩
      exact holds

theorem optionForM {item : Option α} {action : α → Facade PUnit}
    (each : ∀ value, item = some value → Reads holdings (action value) fun _ => True) :
    Reads holdings (item.forM action) fun _ => True := by
  cases item with
  | none => exact .pure True.intro
  | some value => exact each value rfl

end Reads

namespace Runs

theorem mono {action : Facade α} {fits weaker : List Handle → α → Prop}
    (first : Runs holdings action fits)
    (weakens : ∀ made value, fits made value → weaker made value) : Runs holdings action weaker :=
  Ensures.mono first fun _ _ ⟨course, holds⟩ =>
    ⟨course, fun value succeeded => weakens _ value (holds value succeeded)⟩

theorem trivial {action : Facade α} {fits : List Handle → α → Prop}
    (first : Runs holdings action fits) : Runs holdings action fun _ _ => True :=
  first.mono fun _ _ _ => True.intro

theorem pure {fits : List Handle → α → Prop} {value : α} (holds : fits holdings.made value) :
    Runs holdings (Pure.pure value) fits := (Reads.pure holds).runs fun _ fine => fine

theorem throw {fits : List Handle → α → Prop} (failure : Failure) :
    Runs holdings (MonadExcept.throw failure) fits :=
  (Reads.throw failure : Reads holdings _ fun _ => False).runs fun _ absurd => absurd.elim

/-- After a course of moves the holdings are valid and no holder is forgotten, and another
operation follows on them. -/
theorem bind
    {action : Facade α}
    {next : α → Facade β}
    {middle : List Handle → α → Prop}
    {fits : List Handle → β → Prop}
    (first : Runs holdings action middle)
    (valid : holdings.Valid)
    (rest : ∀ value later, later.Valid → holdings.made <+: later.made → middle later.made value →
      Runs later (next value) fits) :
    Runs holdings (action >>= next) fits := by
  refine Ensures.bind first ?_ ?_
  · rintro value later ⟨course, holds⟩
    refine Ensures.mono (rest value later (course.valid valid) (course.faithful valid).made
      (holds value rfl)) ?_
    rintro result last ⟨further, fine⟩
    exact ⟨course.trans further, fine⟩
  · rintro failure later ⟨course, _⟩
    exact ⟨course, by simp⟩

theorem attempt {action : Facade α} {fits : List Handle → α → Prop}
    (first : Runs holdings action fits) :
    Runs holdings (Facade.attempt action) fun made result =>
      ∀ value, result = .ok value → fits made value := by
  refine Ensures.mono (Ensures.attempt first) ?_
  rintro _ later ⟨inner, rfl, course, holds⟩
  refine ⟨course, ?_⟩
  rintro _ ⟨⟩
  exact holds

theorem ite {condition : Prop} [Decidable condition] {first second : Facade α}
    {fits : List Handle → α → Prop}
    (whenTrue : condition → Runs holdings first fits)
    (whenFalse : ¬ condition → Runs holdings second fits) :
    Runs holdings (if condition then first else second) fits := by
  split
  · next holds => exact whenTrue holds
  · next fails => exact whenFalse fails

/-- Operations on several items run one after the other; what they yield goes on fitting. -/
theorem mapM
    {items : List α}
    {change : α → Facade β}
    {fits : List Handle → β → Prop}
    (stable : ∀ made later value, made <+: later → fits made value → fits later value)
    (valid : holdings.Valid)
    (each : ∀ item ∈ items, ∀ later : Holdings, later.Valid → holdings.made <+: later.made →
      Runs later (change item) fits) :
    Runs holdings (items.mapM change) fun made values => ∀ value ∈ values, fits made value := by
  induction items generalizing holdings with
  | nil => exact .pure (by simp)
  | cons item rest inductionHypothesis =>
      rw [List.mapM_cons]
      refine (each item (by simp) holdings valid List.prefix_rfl).bind valid ?_
      intro first later laterValid grown holds
      refine (inductionHypothesis laterValid fun other member last lastValid further =>
        each other (by simp [member]) last lastValid (grown.trans further)).bind laterValid ?_
      intro others last _ further allHold
      refine .pure fun value member => ?_
      rcases List.mem_cons.mp member with rfl | found
      · exact stable _ _ _ further holds
      · exact allHold value found

/-- What runs after a course of moves runs from its beginning. -/
theorem after {origin : Holdings} {action : Facade α} {fits : List Handle → α → Prop}
    (first : Runs holdings action fits) (course : origin.Course holdings) :
    Ensures holdings action fun result later =>
      origin.Course later ∧ ∀ value, result = .ok value → fits later.made value :=
  Ensures.mono first fun _ _ ⟨further, holds⟩ => ⟨course.trans further, holds⟩

theorem throwThen {next : α → Facade β} {fits : List Handle → β → Prop} (failure : Failure) :
    Runs holdings (MonadExcept.throw failure >>= next) fits :=
  Ensures.throwThen ⟨.refl, by simp⟩

theorem mapM_trivial {items : List α} {change : α → Facade β} (valid : holdings.Valid)
    (each : ∀ item ∈ items, ∀ later : Holdings, later.Valid → holdings.made <+: later.made →
      Runs later (change item) fun _ _ => True) :
    Runs holdings (items.mapM change) fun _ _ => True :=
  (mapM (fun _ _ _ _ fits => fits) valid each).trivial

end Runs

section Primitive

/-- A request to the library changes nothing but the books. -/
theorem call_ensures {request : Library.Call α} {post : α → Library.Books → Prop}
    (requested : Library.Call.Ensures holdings.books request post) :
    Ensures holdings (call request) fun result later =>
      ∃ value books, result = .ok value ∧ later = { holdings with books := books } ∧
        post value books := by
  rintro session rfl tidy
  exact ⟨tidy, _, _, rfl, rfl, requested session.library rfl⟩

/-- A request to the library never fails, and something may follow on the new books. -/
theorem callThen {request : Library.Call α} {next : α → Facade β}
    {middle : α → Library.Books → Prop} {post : Except Failure β → Holdings → Prop}
    (requested : Library.Call.Ensures holdings.books request middle)
    (rest : ∀ answer books, middle answer books →
      Ensures { holdings with books := books } (next answer) post) :
    Ensures holdings (call request >>= next) post := by
  refine (call_ensures requested).bind ?_ ?_
  · rintro answer _ ⟨_, books, ⟨⟩, rfl, holds⟩
    exact rest answer books holds
  · rintro failure _ ⟨_, _, ⟨⟩, _⟩

/-- A request that only consults the books never fails either. -/
theorem consultThen {request : Library.Call α} {next : α → Facade β} {fits : α → Prop}
    {post : Except Failure β → Holdings → Prop}
    (requested : Library.Call.Consults holdings.books request fits)
    (rest : ∀ answer, fits answer → Ensures holdings (next answer) post) :
    Ensures holdings (call request >>= next) post := by
  refine callThen requested ?_
  rintro answer _ ⟨rfl, holds⟩
  exact rest answer holds

/-- A request that grants a handle or none. -/
theorem callGrants {request : Library.Call (Option Handle)} {next : Option Handle → Facade β}
    {kind : HandleKind} {parent : Option Handle} {post : Except Failure β → Holdings → Prop}
    (requested : Library.Call.Ensures holdings.books request (holdings.books.Grants kind parent))
    (absent : Ensures holdings (next none) post)
    (present :
      Ensures (holdings.grant kind parent) (next (some (holdings.ledger.fresh kind))) post) :
    Ensures holdings (call request >>= next) post := by
  refine callThen requested ?_
  rintro _ _ (⟨rfl, rfl⟩ | ⟨rfl, rfl⟩)
  · exact absent
  · exact present

theorem call_reads {request : Library.Call α} {fits : α → Prop}
    (requested : Library.Call.Consults holdings.books request fits) :
    Reads holdings (call request) fits := by
  refine Ensures.mono (call_ensures requested) ?_
  rintro _ _ ⟨value, books, rfl, rfl, rfl, holds⟩
  refine ⟨rfl, ?_⟩
  rintro _ ⟨⟩
  exact holds

theorem borrowed_reads {request : Library.Call Library.Lent} {fits : Library.Lent → Prop}
    (requested : Library.Call.Consults holdings.books request fits) :
    Reads holdings (borrowed request) fun _ => True :=
  call_reads (requested.bind fun lent _ => Library.Call.settle_consults lent)

theorem borrowed?_reads {request : Library.Call Library.Lent} {fits : Library.Lent → Prop}
    (requested : Library.Call.Consults holdings.books request fits) :
    Reads holdings (borrowed? request) fun _ => True :=
  call_reads (requested.bind fun lent _ => Library.Call.settle?_consults lent)

theorem record_reads (level : LogLevel) (message : Text) :
    Reads holdings (record level message) fun _ => True :=
  .modify (fun _ => rfl) fun _ _ tidy => tidy

theorem fresh_reads : Reads holdings fresh fun _ => True := by
  intro session same tidy
  exact ⟨tidy, same, fun _ _ => True.intro⟩

theorem mark?_reads (bearer : Bearer) (name : String) :
    Reads holdings (mark? bearer name) fun _ => True :=
  Reads.get.bind fun _ _ => .pure True.intro

theorem putMark_reads (bearer : Bearer) (name : String) (value : Datum) :
    Reads holdings (putMark bearer name value) fun _ => True :=
  fresh_reads.bind fun _ _ => .modify (fun _ => rfl) fun _ _ tidy => tidy

theorem holder_reads (number : Nat) :
    Reads holdings (holder number) fun record => holdings.estate.get? number = some record := by
  refine Reads.get.bind ?_
  rintro session ⟨rfl, _⟩
  split
  · next record present => exact .pure present
  · exact .throw _

theorem handle_reads (number : Nat) :
    Reads holdings (handle number) fun handle => holdings.estate.handle? number = some handle := by
  refine (holder_reads number).bind fun record present => ?_
  split
  · next handle held =>
      refine .pure ?_
      rw [Estate.handle?_of_get? present, held]
  · exact .throw _

/-- The handle of an open holder can be read. -/
theorem handle_ensures {number : Nat} {kept : Handle}
    (held : holdings.estate.handle? number = some kept) :
    Ensures holdings (handle number) fun result later => result = .ok kept ∧ later = holdings := by
  obtain ⟨record, present, opened⟩ := Estate.handle?_eq_some_iff.mp held
  have found : Ensures holdings (holder number) fun result later =>
      result = .ok record ∧ later = holdings := by
    refine Ensures.getThen fun session same _ => ?_
    subst same
    rw [show session.estate.get? number = some record from present]
    exact Ensures.pure ⟨rfl, rfl⟩
  refine found.bind ?_ (by simp)
  rintro _ _ ⟨⟨⟩, rfl⟩
  rw [opened]
  exact Ensures.pure ⟨rfl, rfl⟩

theorem passed_reads (passed : Passed) :
    Reads holdings (Facade.passed passed) fun found =>
      holdings.estate.handle? found.1 = some found.2 := by
  cases passed with
  | holder number => exact (handle_reads number).bind fun handle held => .pure held
  | other => exact .throw _

theorem ensureOpen_reads (number : Nat) :
    Reads holdings (ensureOpen number) fun _ =>
      ∃ handle, holdings.estate.handle? number = some handle :=
  (handle_reads number).bind fun handle held => .pure ⟨handle, held⟩

/-- Making a holder enrols it. -/
theorem wrap_ensures (handle : Handle) (owned : Bool) (wrapper : Wrapper) :
    Ensures holdings (wrap (some handle) owned wrapper) fun result later =>
      result = .ok holdings.estate.size ∧ later = holdings.enrol handle owned wrapper := by
  rintro session rfl tidy
  refine ⟨?_, rfl, rfl⟩
  intro entry member file found
  exact (tidy entry member file found).imp_left fun anchored =>
    anchored.mono (List.prefix_append _ _)

theorem adopt_ensures (parent child : Nat) :
    Ensures holdings (adopt parent child) fun result later =>
      result = .ok () ∧ later = holdings.adopt parent child := by
  rintro session rfl tidy
  exact ⟨tidy, rfl, rfl⟩

/-- Making a holder that another one adopts places it. -/
theorem place_ensures (parent : Nat) {handle : Handle} {owned : Bool}
    (same : owned = handle.isOwned) (wrapper : Wrapper) :
    Ensures holdings (do
        let number ← wrap (some handle) owned wrapper
        adopt parent number
        return number) fun result later =>
      result = .ok holdings.estate.size ∧ later = holdings.place (some parent) handle wrapper := by
  subst same
  refine (wrap_ensures handle _ wrapper).bind ?_ (by simp)
  rintro _ _ ⟨⟨⟩, rfl⟩
  refine (adopt_ensures parent _).bind ?_ (by simp)
  rintro _ _ ⟨_, rfl⟩
  exact .pure ⟨rfl, rfl⟩

/-- Making a holder for a new handle without a parent is a move. -/
theorem found_ensures {kind : HandleKind} {wrapper : Wrapper} (root : Wrapper.Root kind wrapper) :
    Ensures (holdings.grant kind none) (wrap (some (holdings.ledger.fresh kind)) true wrapper)
      fun result later => result = .ok holdings.estate.size ∧ holdings.Course later := by
  refine (wrap_ensures _ true wrapper).mono ?_
  rintro _ _ ⟨rfl, rfl⟩
  exact ⟨rfl, .single (.found root)⟩

/-- Making a holder for a new handle below an open holder is a move. -/
theorem derive_ensures {parent : Nat} {upper : Handle} {kind : HandleKind} {wrapper : Wrapper}
    (held : holdings.estate.handle? parent = some upper)
    (branch : Wrapper.Branch parent upper kind wrapper) :
    Ensures (holdings.grant kind (some upper)) (do
        let number ← wrap (some (holdings.ledger.fresh kind)) true wrapper
        adopt parent number
        return number) fun result later =>
      result = .ok holdings.estate.size ∧ holdings.Course later := by
  refine (place_ensures parent rfl wrapper).mono ?_
  rintro _ _ ⟨rfl, rfl⟩
  exact ⟨rfl, .single (.derive held branch)⟩

/-- Giving an unwanted handle back at once is a move. -/
theorem pass_ensures (kind : HandleKind) :
    Ensures (holdings.grant kind none) (call (Library.Call.dispose (holdings.ledger.fresh kind)))
      fun result later => result = .ok () ∧ holdings.Course later := by
  refine (call_ensures (Library.Call.dispose_ensures _)).mono ?_
  rintro _ _ ⟨_, _, rfl, rfl, rfl⟩
  exact ⟨rfl, .single (.pass kind)⟩

end Primitive

section Closing

/-- A discipline disposes as the library does, whatever the order of the dependants. -/
def DisposesByLibrary (order : Discipline Handle Wrapper Library.State) : Prop :=
  order.dispose = discipline.dispose

/-- Disposal by the library never fails and gives the handle back. -/
theorem release_eq {order : Discipline Handle Wrapper Library.State}
    (byLibrary : DisposesByLibrary order) (number : Nat) (handle : Handle) (owned : Bool)
    (estate : Estate Handle Wrapper) (library : Library.State) :
    (order.release number handle owned estate library).failure = none ∧
      (order.release number handle owned estate library).world.books =
        if owned then library.books.retire handle else library.books := by
  cases owned with
  | false => exact ⟨rfl, rfl⟩
  | true =>
      have unfolded : order.release number handle true estate library =
          discipline.release number handle true estate library := by
        unfold Discipline.release
        rw [byLibrary]
      rw [unfolded]
      exact ⟨rfl, Library.Call.dispose_ensures handle library rfl⟩

/-- A teardown is a course of releases and never fails. -/
theorem course_of_teardown
    {order : Discipline Handle Wrapper Library.State}
    {reach : Nat → Prop}
    {estate : Estate Handle Wrapper}
    {library : Library.State}
    {outcome : Outcome Handle Wrapper Library.State}
    (byLibrary : DisposesByLibrary order)
    (teardown : order.Teardown reach estate library outcome)
    (made : List Handle)
    (adoptions : List Adoption)
    (valid : Holdings.Valid ⟨estate, made, adoptions, library.books⟩) :
    Holdings.Course ⟨estate, made, adoptions, library.books⟩
        ⟨outcome.estate, made, adoptions, outcome.world.books⟩ ∧
      outcome.failure = none := by
  induction teardown with
  | finished => exact ⟨.refl, rfl⟩
  | @released estate library number record handle outcome _ present opened leaf _ _
      inductionHypothesis =>
      have held : estate.handle? number = some handle :=
        (Estate.handle?_of_get? present).trans opened
      have owned : record.owned = handle.isOwned :=
        valid.founded.owned_eq (Estate.owned?_of_get? present) (valid.orderly.made_of_held held)
      have move : Holdings.Move ⟨estate, made, adoptions, library.books⟩
          ⟨estate.clear number, made, adoptions,
            (order.release number handle record.owned estate library).world.books⟩ := by
        rw [(release_eq byLibrary number handle record.owned estate library).2, owned]
        refine .release held fun child adopted => leaf child ?_
        rwa [← Estate.dependants_of_get? present]
      obtain ⟨course, peaceful⟩ := inductionHypothesis (move.valid valid)
      exact ⟨.head move course, peaceful⟩
  | failed _ _ _ _ failing => exact absurd (release_eq byLibrary _ _ _ _ _).1 failing

/-- Closing a holder in any order of dependants is a course of releases that does not fail, after
which the holder is closed. -/
theorem close_course
    {order : Discipline Handle Wrapper Library.State}
    (byLibrary : DisposesByLibrary order)
    (session : Session)
    (valid : session.holdings.Valid)
    (number : Nat) :
    session.holdings.Course
        ⟨(order.close number session.estate session.library).estate, session.made,
          session.adoptions, (order.close number session.estate session.library).world.books⟩ ∧
      (order.close number session.estate session.library).failure = none ∧
      (order.close number session.estate session.library).estate.isOpen number = false := by
  have deep : session.estate.size - number < session.estate.size + 1 := by omega
  obtain ⟨teardown, closes⟩ :=
    order.closeWithin_teardown session.library valid.orderly.ranked deep
  obtain ⟨course, peaceful⟩ :=
    course_of_teardown byLibrary teardown session.made session.adoptions valid
  exact ⟨course, peaceful, closes peaceful⟩

theorem settle_ensures {outcome : Outcome Handle Wrapper Library.State}
    (peaceful : outcome.failure = none) :
    Ensures holdings (settle outcome) fun result later =>
      result = .ok () ∧
        later = { holdings with estate := outcome.estate, books := outcome.world.books } := by
  rintro session rfl tidy
  unfold settle
  simp only [peaceful]
  exact ⟨tidy, rfl, rfl⟩

/-- Closing a holder succeeds: it is a course of releases after which the holder is closed. -/
theorem close_ensures (valid : holdings.Valid) (number : Nat) :
    Ensures holdings (close number) fun result later =>
      result = .ok () ∧ holdings.Course later ∧ later.estate.isOpen number = false := by
  refine Ensures.getThen ?_
  rintro session rfl _
  obtain ⟨course, peaceful, closed⟩ := close_course rfl session valid number
  refine (settle_ensures peaceful).mono ?_
  rintro _ _ ⟨rfl, rfl⟩
  exact ⟨rfl, course, closed⟩

/-- Closing a leaf releases it. -/
theorem closeLeaf_ensures {number : Nat} {record : Holder Handle Wrapper} {handle : Handle}
    (present : holdings.estate.get? number = some record)
    (opened : record.handle = some handle)
    (owned : record.owned = handle.isOwned)
    (leaf : ∀ child ∈ record.dependants, holdings.estate.isOpen child = false) :
    Ensures holdings (close number) fun result later =>
      result = .ok () ∧ later = holdings.release number handle := by
  refine Ensures.getThen ?_
  rintro session rfl _
  obtain ⟨peaceful, books⟩ :=
    release_eq rfl number handle record.owned session.estate session.library
  have closing : discipline.close number session.estate session.library =
      discipline.release number handle record.owned session.estate session.library :=
    discipline.close_of_leaf session.library present opened leaf
  rw [closing]
  refine (settle_ensures peaceful).mono ?_
  rintro _ _ ⟨rfl, rfl⟩
  refine ⟨rfl, ?_⟩
  rw [books, discipline.release_estate, owned]
  rfl

theorem close_runs (valid : holdings.Valid) (number : Nat) :
    Runs holdings (close number) fun _ _ => True :=
  (close_ensures valid number).mono fun _ _ closed => ⟨closed.2.1, fun _ _ => True.intro⟩

/-- Closing the dependants of a holder succeeds and leaves the holder as it is. -/
theorem closeDependants_ensures (valid : holdings.Valid) {number : Nat}
    {record : Holder Handle Wrapper} (present : holdings.estate.get? number = some record) :
    Ensures holdings (closeDependants number) fun result later =>
      result = .ok () ∧ holdings.Course later ∧ later.estate.get? number = some record ∧
        ∀ child ∈ record.dependants, later.estate.isOpen child = false := by
  refine Ensures.getThen ?_
  rintro session rfl _
  have present : session.estate.get? number = some record := present
  have ranked : session.estate.Ranked fun other => session.estate.size - other :=
    valid.orderly.ranked
  have each (child : Nat) (later : Estate Handle Wrapper) (after : Library.State)
      (_ : session.estate.Adopts number child) (waned : session.estate.Wanes later) :=
    discipline.closeWithin_teardown_open (session.estate.size + 1) child after
      (waned.ranked ranked) (by omega)
  obtain ⟨teardown, closed, kept⟩ :=
    discipline.closeEach_dependants_teardown session.library ranked present each
  obtain ⟨course, peaceful⟩ :=
    course_of_teardown rfl teardown session.made session.adoptions valid
  have unfolded : discipline.closeDependants number session.estate session.library =
      Discipline.closeEach (discipline.closeWithin (session.estate.size + 1)) record.dependants
        session.estate session.library := by
    unfold Discipline.closeDependants
    rw [present]
    rfl
  rw [unfolded]
  refine (settle_ensures peaceful).mono ?_
  rintro _ _ ⟨rfl, rfl⟩
  exact ⟨rfl, course, kept, closed peaceful⟩

end Closing

end Facade
end Custody
