import Custody.Scenario.Value

/-!
# Queries

A query is a path of selectors that leads from a value to a part of a part of it.
Every selector is evaluated anew, so that a query may call the library and even
make holders.  The absent value has no parts: it ends a path.

A word of digits, after any number of minus signs, is meant as an index.  It is read
only when it is used, and some such words spell no number.
-/

namespace Custody

/-- One step of a path. -/
inductive Selector where
  /-- A named part. -/
  | part (name : String)
  /-- A word that cannot name a part. -/
  | unnameable
  /-- The item at an index that is spelled out. -/
  | item (index : Text)
  /-- The number of items. -/
  | length
  /-- The value as text. -/
  | shown
  /-- The value in its written form. -/
  | written
  /-- The name of the class. -/
  | className
  /-- All items. -/
  | items
  deriving DecidableEq, Inhabited

namespace Selector

/-- Whether a word is meant as an index. -/
def isIndex (word : Text) : Bool :=
  let digits := word.glyphs.dropWhile (· = .char '-')
  !digits.isEmpty && digits.all Digit.isDigitGlyph

/-- The selector that a word denotes. -/
def ofText (word : Text) : Selector :=
  if isIndex word then .item word
  else
    match word.toString? with
    | none => .unnameable
    | some "len" => .length
    | some "str" => .shown
    | some "repr" => .written
    | some "type" => .className
    | some "list" => .items
    | some name => .part name

end Selector

/-- A path of selectors, parted by dots. -/
structure Path where
  /-- The path as it is written. -/
  written : Text
  /-- Its selectors. -/
  selectors : List Selector
  deriving DecidableEq, Inhabited

/-- Reads a path. -/
def Path.ofText (written : Text) : Path := ⟨written, (written.splitOn '.').map Selector.ofText⟩

/-- The bounds of a slice as a caller gives them. -/
structure Bounds where
  /-- Where to begin. -/
  start : Datum
  /-- Where to stop. -/
  stop : Datum
  /-- How far to go in a step. -/
  step : Datum
  deriving Inhabited

namespace Bounds

/-- A bound that may be left out. -/
def bound : Datum → Except Failure (Option Int)
  | .null => .ok none
  | .bool value => .ok (some (if value then 1 else 0))
  | .int value => .ok (some value)
  | _ => .error .wrongKind

/-- The slice with these bounds; the step is looked at first. -/
def slice (bounds : Bounds) : Except Failure Slice := do
  let step ← bound bounds.step
  if step = some 0 then .error .zeroStep
  let start ← bound bounds.start
  return ⟨start, ← bound bounds.stop, step⟩

end Bounds

/-- A choice of items of a sequence. -/
inductive Choice where
  /-- The item at an index or key. -/
  | one (index : Datum)
  /-- The items of a slice. -/
  | several (bounds : Bounds)
  deriving Inhabited

/-- The choice that a datum denotes: a list of one to three bounds, or an index. -/
def Choice.ofDatum : Datum → Except Failure Choice
  | .list [stop] => .ok (.several ⟨.null, stop, .null⟩)
  | .list [start, stop] => .ok (.several ⟨start, stop, .null⟩)
  | .list [start, stop, step] => .ok (.several ⟨start, stop, step⟩)
  | .list _ => .error .wrongKind
  | index => .ok (.one index)

namespace Value

/-- A part of any holder. -/
def holderPart? (number : Nat) (name : String) : Option (Facade Value) :=
  match name with
  | "closed" => some do return .bool (← Facade.holder number).handle.isNone
  | "owned" => some do return .bool (← Facade.holder number).owned
  | "handle" => some do return .int (← Facade.handle number).value
  | _ => none

/-- A part of a unit. -/
def unitPart (unit : Nat) (name : String) : Facade Value :=
  match name with
  | "index" => do return .holder (← CompilationUnit.index unit)
  | "default_reparse_options" => do return .int (← CompilationUnit.defaultReparseOptions unit)
  | "default_save_options" => do return .int (← CompilationUnit.defaultSaveOptions unit)
  | "spelling" => do newString (← CompilationUnit.spelling unit)
  | "cursor" => do return option .cursor (← CompilationUnit.cursor unit)
  | "diagnostics" => do return .view (← Facade.fresh) unit
  | _ => throw .noSuchPart

/-- A part of a diagnostic. -/
def diagnosticPart (diagnostic : Nat) (name : String) : Facade Value :=
  match name with
  | "severity" => do return .member (← Diagnostic.severity diagnostic)
  | "spelling" => do newString (← Diagnostic.spelling diagnostic)
  | "location" => do return .location (← Diagnostic.location diagnostic)
  | "ranges" => do listOf ((← Diagnostic.ranges diagnostic).map .range)
  | "fixits" => do listOf ((← Diagnostic.fixIts diagnostic).map ofFixIt)
  | "category_number" => do return .int (← Diagnostic.categoryNumber diagnostic)
  | "category_name" => do newString (← Diagnostic.categoryName diagnostic)
  | "option" => do newString (← Diagnostic.option diagnostic)
  | "disable_option" => do newString (← Diagnostic.disableOption diagnostic)
  | "children" => do listOf ((← Diagnostic.children diagnostic).map .holder)
  | _ => throw .noSuchPart

/-- The list of all commands of a database. -/
def allCommands (database : Nat) : Facade Value := do
  let (serial, commands) ← CompilationDatabase.commands database
  return .list serial (commands.map .command)

/-- A part of a holder. -/
def wrapperPart (number : Nat) (name : String) : Facade Value := do
  match holderPart? number name with
  | some action => action
  | none =>
      match (← Facade.holder number).content with
      | .index =>
          if name = "global_options" then
            let value ← Index.globalOptions number
            return .flags (← Facade.fresh) Codes.globalOptions value
          throw .noSuchPart
      | .unit _ _ => unitPart number name
      | .diagnostic _ => diagnosticPart number name
      | .database _ _ =>
          if name = "directory" then return ← newText (← CompilationDatabase.directory number)
          if name = "compile_commands" then return ← allCommands number
          throw .noSuchPart
      | .action _ => throw .noSuchPart
      | .set _ => throw .noSuchPart

/-- A part of a location. -/
def locationPart (location : Location) (name : String) : Facade Value :=
  match name with
  | "file" => do return option .file (← location.expansion).file
  | "line" => do return .int (← location.expansion).line
  | "column" => do return .int (← location.expansion).column
  | "offset" => do return .int (← location.expansion).offset
  | "translation_unit" => do return option .holder (← Facade.unit? location.owner)
  | "is_from_main_file" => do return .bool (← location.isFromMainFile)
  | "is_in_system_header" => do return .bool (← location.isInSystemHeader)
  | "is_null" => return .bool location.isNull
  | _ => throw .noSuchPart

/-- A part of a range. -/
def rangePart (range : Range) (name : String) : Facade Value :=
  match name with
  | "start" => do return .location (← range.start)
  | "end" => do return .location (← range.finish)
  | "translation_unit" => do return option .holder (← Facade.unit? range.owner)
  | "is_null" => return .bool range.isNull
  | _ => throw .noSuchPart

/-- A part of a cursor. -/
def cursorPart (cursor : Cursor) (name : String) : Facade Value :=
  match name with
  | "kind" => do
      let kind := cursor.native.kind
      return .kind "CursorKind" (← Facade.ofExcept (CursorKind.name kind)) kind
  | "spelling" => do newString (← cursor.spelling)
  | "display_name" => do newString (← cursor.displayName)
  | "usr" => do
      match ← cursor.usr with
      | none => return .nothing
      | some usr => newString usr
  | "range" => do return .range (← cursor.range)
  | "location" => do return .location (← cursor.location)
  | "translation_unit" => return .holder cursor.unit
  | "parent" => do return option .cursor (← cursor.parent)
  | "semantic_parent" => do return option .cursor (← cursor.semanticParent)
  | "lexical_parent" => do return option .cursor (← cursor.lexicalParent)
  | "referenced" => do return option .cursor (← cursor.referenced)
  | "definition" => do return option .cursor (← cursor.definition)
  | "is_definition" => do return .bool (← cursor.isDefinition)
  | "children" => do cursors (← cursor.children)
  | _ => throw .noSuchPart

/-- A part of a token. -/
def tokenPart (token : Token) (name : String) : Facade Value :=
  match name with
  | "kind" => do
      let kind := token.native.kind
      return .kind "TokenKind" (← Facade.ofExcept (TokenKind.name kind)) kind
  | "spelling" => do newString (← token.spelling)
  | "location" => do return .location (← token.location)
  | "range" => do return .range (← token.range)
  | "translation_unit" => return .holder token.unit
  | _ => throw .noSuchPart

/-- A part of an unsaved file. -/
def unsavedPart (number : Nat) (name : String) : Facade Value := do
  let file ← asUnsaved (.unsaved number)
  match name with
  | "filename" => newText file.filename
  | "contents" => newString file.contents
  | "native" => return .slot number
  | _ => throw .noSuchPart

/-- A part of the slot of an unsaved file. -/
def slotPart (number : Nat) (name : String) : Facade Value := do
  let slot := (← asUnsaved (.unsaved number)).native
  match name with
  | "Filename" => return option (.bytes (← Facade.fresh)) slot.visibleFilename
  | "Contents" => return option (.bytes (← Facade.fresh)) slot.visibleContents
  | "Length" => return .int slot.length
  | _ => throw .noSuchPart

/-- A part of a record; a declaration also tells the kind of its entity. -/
def recordPart (recordName : String) (fields : List (String × Value)) (name : String) :
    Facade Value :=
  match fields.lookup name with
  | some value => return value
  | none =>
      if recordName = "IndexedDeclaration" ∧ name = "entity_kind" then
        match fields.lookup "entity" with
        | some (.record _ _ entity) => return (entity.lookup "kind").getD .nothing
        | _ => return .nothing
      else throw .noSuchPart

/-- A part that a value has of its own. -/
def ownPart (name : String) : Value → Facade Value
  | .holder number => wrapperPart number name
  | .file value =>
      match name with
      | "name" => do newString (← value.name)
      | "time" => do return .int (← value.time)
      | _ => throw .noSuchPart
  | .location value => locationPart value name
  | .range value => rangePart value name
  | .cursor value => cursorPart value name
  | .token value => tokenPart value name
  | .unsaved number => unsavedPart number name
  | .slot number => slotPart number name
  | .member value =>
      match name with
      | "name" => newString value.name
      | "value" => return .int value.code
      | _ => throw .noSuchPart
  | .kind _ word code =>
      match name with
      | "name" => newString word
      | "value" => return .int code
      | _ => throw .noSuchPart
  | .flags _ names value =>
      match name with
      | "name" => do return option (string (← Facade.fresh)) (names.word? value)
      | "value" => return .int value
      | _ => throw .noSuchPart
  | .command value =>
      match name with
      | "directory" => return ofDatum value.serial value.directory
      | "filename" => return ofDatum value.serial value.filename
      | "arguments" => return .tuple value.serial (value.arguments.map (ofDatum value.serial))
      | _ => throw .noSuchPart
  | .record _ recordName fields => recordPart recordName fields name
  | _ => throw .noSuchPart

/-- What keeps the marks of a value, if it can have any. -/
def bearer? : Value → Option Bearer
  | .holder number => some (.holder number)
  | .unsaved number => some (.unsaved number)
  | .slot number => some (.slot number)
  | .file value => some (.object value.serial)
  | .location value => some (.object value.serial)
  | .range value => some (.object value.serial)
  | .cursor value => some (.object value.serial)
  | .token value => some (.object value.serial)
  | .view serial _ => some (.object serial)
  | _ => none

/-- A named part of a value: a mark, or else a part of its own. -/
def part (name : String) (value : Value) : Facade Value := do
  match value.bearer? with
  | none => value.ownPart name
  | some bearer =>
      match ← Facade.mark? bearer name with
      | some mark => return ofDatum mark.serial mark.value
      | none => value.ownPart name

/-- Whether a caller may put a mark on a value under a name.  Of the parts that a value has of
its own, only those that a database keeps as plain values can be covered. -/
def isMarkable (name : String) (value : Value) : Facade Bool := do
  let session ← get
  match (value.ownPart name).outcome session with
  | (.error .noSuchPart, _) => return true
  | _ =>
      match value with
      | .holder number =>
          match (← Facade.holder number).content with
          | .database _ _ => return name = "directory" || name = "compile_commands"
          | _ => return false
      | _ => return false

/-- Whether a sequence in memory can have a position. -/
def isPosition (index : Int) : Bool :=
  -9223372036854775808 ≤ index && index ≤ 9223372036854775807

/-- The item of a list that an index denotes, or a failure. -/
def itemOr {α : Type} (failure : Failure) (items : List α) (index : Int) : Facade α :=
  if !isPosition index then throw .hugeIndex
  else
    match Sequence.item? items index with
    | some item => return item
    | none => throw failure

/-- The entry of a mapping with a key. -/
def entryAt (serial : Nat) (entries : List (Datum × Datum)) (key : Datum) : Facade Value :=
  match key with
  | .list _ => throw .wrongKind
  | .map _ => throw .wrongKind
  | key =>
      match entries.find? fun entry => key.sameKey entry.1 with
      | some entry => return ofDatum serial entry.2
      | none => throw (.unknownKey key.written)

/-- The item of a value at an index. -/
def item (index : Int) : Value → Facade Value
  | .list _ items => itemOr .listIndex items index
  | .tuple _ items => itemOr .tupleIndex items index
  | .text _ value => do newText ⟨[← itemOr .textIndex value.glyphs index]⟩
  | .bytes _ value => do return .int (← itemOr .bytesIndex value index).toNat
  | .loose serial (.list items) => do return ofDatum serial (← itemOr .listIndex items index)
  | .loose serial (.map entries) => entryAt serial entries (.int index)
  | .view _ unit => do return .holder (← DiagnosticView.item unit index)
  | .holder number => do
      match (← Facade.holder number).content with
      | .set _ => return .holder (← DiagnosticSet.item number index)
      | _ => throw .wrongKind
  | _ => throw .wrongKind

/-- The number of items of a value. -/
def length : Value → Facade Nat
  | .list _ items => return items.length
  | .tuple _ items => return items.length
  | .text _ value => return value.glyphs.length
  | .bytes _ value => return value.length
  | .loose _ (.list items) => return items.length
  | .loose _ (.map entries) => return entries.length
  | .flags _ _ value => return FlagSet.countBits value
  | .view _ unit => DiagnosticView.count unit
  | .holder number => do
      match (← Facade.holder number).content with
      | .set _ => DiagnosticSet.count number
      | _ => throw .wrongKind
  | _ => throw .wrongKind

/-- Whether a number with a fraction lies inside a sequence, counted from either end. -/
def isInside (value : Binary64) (length : Nat) : Bool :=
  if value.isUndefined then false
  else if value.isBelow 0 then !value.isBelow (-(length : Int))
  else value.isBelow length

/-- What an index that is no integer finds in a value: mappings take other keys, and diagnostics
compare a number with their count before they refuse it. -/
def oddItem (index : Datum) (value : Value) : Facade Value := do
  match value, index with
  | .loose serial (.map entries), key => entryAt serial entries key
  | .text _ _, _ => throw .wrongKind
  | .bytes _ _, _ => throw .wrongKind
  | value, .float number =>
      if isInside number (← value.length) then throw .wrongKind
      else
        match value with
        | .view _ _ => throw .diagnosticIndex
        | .holder _ => throw .diagnosticIndex
        | _ => throw .wrongKind
  | value, _ =>
      let _ ← value.length
      throw .wrongKind

/-- The items of a value that a slice picks.  Diagnostics are counted before the bounds are
looked at. -/
def slice (bounds : Bounds) : Value → Facade Value
  | .list _ items => do
      let slice ← Facade.ofExcept bounds.slice
      listOf (← Facade.ofExcept (slice.pick items))
  | .tuple _ items => do
      let slice ← Facade.ofExcept bounds.slice
      return .tuple (← Facade.fresh) (← Facade.ofExcept (slice.pick items))
  | .text _ value => do
      let slice ← Facade.ofExcept bounds.slice
      newText ⟨← Facade.ofExcept (slice.pick value.glyphs)⟩
  | .bytes _ value => do
      let slice ← Facade.ofExcept bounds.slice
      return .bytes (← Facade.fresh) (← Facade.ofExcept (slice.pick value))
  | .loose _ (.list items) => do
      let slice ← Facade.ofExcept bounds.slice
      return .loose (← Facade.fresh) (.list (← Facade.ofExcept (slice.pick items)))
  | .view _ unit => do
      let _ ← DiagnosticView.count unit
      let slice ← Facade.ofExcept bounds.slice
      listOf ((← DiagnosticView.slice unit slice).map .holder)
  | .holder number => do
      match (← Facade.holder number).content with
      | .set _ =>
          let slice ← Facade.ofExcept bounds.slice
          listOf ((← DiagnosticSet.slice number slice).map .holder)
      | _ => throw .wrongKind
  | _ => throw .wrongKind

/-- What a choice picks from a value. -/
def pick (choice : Choice) (value : Value) : Facade Value :=
  match choice with
  | .several bounds => value.slice bounds
  | .one (.int index) => value.item index
  | .one (.bool index) => value.item (if index then 1 else 0)
  | .one index => value.oddItem index

/-- The items of a value. -/
def items : Value → Facade (List Value)
  | .list _ items => return items
  | .tuple _ items => return items
  | .text _ value => value.glyphs.mapM fun glyph => newText ⟨[glyph]⟩
  | .bytes _ value => return value.map fun byte => .int byte.toNat
  | .loose serial (.list items) => return items.map (ofDatum serial)
  | .loose serial (.map entries) => return entries.map fun entry => ofDatum serial entry.1
  | .flags serial names value => return (names.bitsIn value).map (.flags serial names)
  | .view _ unit => do return (← DiagnosticView.toList unit).map .holder
  | .holder number => do
      match (← Facade.holder number).content with
      | .set _ => return (← DiagnosticSet.toList number).map .holder
      | _ => throw .wrongKind
  | _ => throw .wrongKind

/-- The written form of a holder. -/
def holderWritten (number : Nat) : Facade Text := do
  match (← Facade.holder number).content with
  | .unit _ _ => CompilationUnit.written number
  | .diagnostic _ => Diagnostic.written number
  | .database _ _ => do
      match ← Facade.mark? (.holder number) "directory" with
      | some mark => return CompilationDatabase.writtenIn mark.value.written
      | none => CompilationDatabase.written number
  | wrapper => return "<" ++ Text.ofString wrapper.className ++ ">"

/-- The written form of a compile command. -/
def commandWritten (command : CompileCommand) : Text :=
  "CompileCommand(directory=" ++ Text.ofString command.directory.written ++ ", filename=" ++
    Text.ofString command.filename.written ++ ", arguments=" ++
    Text.ofString (Quoted.tuple (command.arguments.map Datum.written)) ++ ")"

mutual

/-- The written form of a value. -/
def written : Value → Facade Text
  | .nothing => return "None"
  | .bool value => return if value then "True" else "False"
  | .int value => return Text.ofInt value
  | .text _ value => return Quoted.ofText value
  | .bytes _ value => return Quoted.ofBytes value
  | .loose _ value => return Text.ofString value.written
  | .member value =>
      return "<" ++ Text.ofString value.enumeration ++ "." ++ Text.ofString value.name ++ ": " ++
        Text.ofInt value.code ++ ">"
  | .kind enumeration name _ =>
      return Text.ofString enumeration ++ "." ++ Text.ofString name
  | .flags _ names value =>
      return "<" ++ Text.ofString names.name ++
        ((names.word? value).elim ("" : Text) fun word => "." ++ Text.ofString word) ++ ": " ++
        Text.ofNat value ++ ">"
  | .holder number => holderWritten number
  | .unsaved number => do return (← asUnsaved (.unsaved number)).written
  | .slot _ => return "<CXUnsavedFile>"
  | .file value => value.written
  | .location value => value.written
  | .range value => value.written
  | .cursor value => value.written
  | .token value => value.written
  | .view _ _ => return "<_DiagnosticList>"
  | .command value => return commandWritten value
  | .record _ name fields => do
      return Text.ofString name ++ "(" ++ Text.intercalate ", " (← writtenFields fields) ++ ")"
  | .list _ items => do return "[" ++ Text.intercalate ", " (← writtenAll items) ++ "]"
  | .tuple _ items => do
      match ← writtenAll items with
      | [item] => return "(" ++ item ++ ",)"
      | items => return "(" ++ Text.intercalate ", " items ++ ")"

/-- The written forms of several values. -/
def writtenAll : List Value → Facade (List Text)
  | [] => return []
  | value :: values => do
      let first ← written value
      return first :: (← writtenAll values)

/-- The written forms of named fields. -/
def writtenFields : List (String × Value) → Facade (List Text)
  | [] => return []
  | (name, value) :: fields => do
      let first ← written value
      return (Text.ofString name ++ "=" ++ first) :: (← writtenFields fields)

end

/-- A value as text. -/
def shown : Value → Facade Text
  | .text _ value => return value
  | .loose _ value => return value.shown
  | .member value => return Text.ofInt value.code
  | .flags _ _ value => return Text.ofNat value
  | .file value => do return Text.ofString (← value.name)
  | .cursor value => do return Text.ofString (← value.spelling)
  | .token value => do return Text.ofString (← value.spelling)
  | .holder number => do
      match (← Facade.holder number).content with
      | .diagnostic _ => return Text.ofString (← Diagnostic.spelling number)
      | _ => holderWritten number
  | value => value.written

/-- What a selector leads to. -/
def select (selector : Selector) (value : Value) : Facade Value :=
  match selector with
  | .part name => value.part name
  | .unnameable => throw .noSuchPart
  | .item index => do value.item (← Facade.ofExcept (Numeral.integer 10 index))
  | .length => do return .int (← value.length)
  | .shown => do
      match value with
      | .text _ _ => return value
      | value => newText (← value.shown)
  | .written => do newText (← value.written)
  | .className => do newString (value.className (← get))
  | .items => do listOf (← value.items)

/-- What a path leads to; the absent value ends it. -/
def follow : List Selector → Value → Facade Value
  | [], value => return value
  | _ :: _, .nothing => return .nothing
  | selector :: rest, value => do follow rest (← value.select selector)

/-- Reports on several paths, each with its own failure. -/
def describe (paths : List Path) (value : Value) : Facade Rendered := do
  let entries ← paths.mapM fun path => do
    let report : Facade Rendered := do
      let found ← follow path.selectors value
      Facade.ofExcept (Rendered.ofValue (← get) found).checked
    match ← Facade.attempt report with
    | .ok rendered => return (path.written, rendered)
    | .error failure => return (path.written, .failure failure)
  return .fields entries

end Value
end Custody
