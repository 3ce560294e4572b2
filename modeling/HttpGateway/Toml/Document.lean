import HttpGateway.Toml.Number
import HttpGateway.Toml.Tree

/-!
# Documents

A document is a list of statements on lines of their own: headers of tables, headers of elements
of arrays of tables, and keys with values. `read?` reads the statements and carries them out one
after the other. Arrays and inline tables may be nested 79 deep.
-/

namespace HttpGateway.Toml

/-- A comma. -/
def comma : Scan Unit := Scan.char ','

/-- The items of an array after its opening bracket, up to its closing one. -/
def items (value : Scan Setting) : Scan (List Setting) := do
  let item : Scan Setting := do
    space
    let setting ← value
    space
    pure setting
  let list ← Scan.optional (do
    let list ← Scan.separated item comma
    let _ ← Scan.optional comma
    pure list)
  space
  Scan.char ']'
  pure (list.getD [])

/-- The pairs of an inline table after its opening brace, up to its closing one. -/
def pairs (value : Scan Setting) : Scan (List (List String × Setting)) := do
  let pair : Scan (List String × Setting) := do
    let path ← key
    Scan.char '='
    blanks
    let setting ← value
    blanks
    pure (path, setting)
  let list ← Scan.optional (Scan.separated pair comma)
  blanks
  Scan.char '\x7d'
  pure (list.getD [])

/-- The table that pairs make up. -/
def inlineTable (pairs : List (List String × Setting)) : Scan Setting :=
  match pairs.foldlM (fun entries pair => Entries.assign pair.2 pair.1 entries) [] with
  | some entries => pure (.table (entrySettings entries))
  | none => Scan.refuse

/-- The greatest depth of nesting. -/
def depthLimit : Nat := 79

/-- A value in which arrays and inline tables are nested no deeper than `depth`. -/
def value (depth : Nat) : Scan Setting := do
  match ← Scan.peek with
  | some '[' =>
    match depth with
    | 0 => Scan.refuse
    | depth + 1 => do
      Scan.char '['
      let list ← items (value depth)
      pure (.list list)
  | some '\x7b' =>
    match depth with
    | 0 => Scan.refuse
    | depth + 1 => do
      Scan.char '\x7b'
      let list ← pairs (value depth)
      inlineTable list
  | some 't' => do
    Scan.text "true"
    pure (.bool true)
  | some 'f' => do
    Scan.text "false"
    pure (.bool false)
  | some '"' => do pure (.text (← string))
  | some '\'' => do pure (.text (← string))
  | _ => number

/-- A statement. -/
inductive Statement
  /-- The header of a table. -/
  | table (path : List String)
  /-- The header of an element of an array of tables. -/
  | element (path : List String)
  /-- A key with its value. -/
  | assign (path : List String) (value : Setting)

/-- A statement with the rest of its line. -/
def statement : Scan Statement := do
  let header : Scan Statement :=
    (do
      Scan.text "[["
      let path ← key
      Scan.text "]]"
      pure (.element path)) <|>
    (do
      Scan.char '['
      let path ← key
      Scan.char ']'
      pure (.table path)) <|>
    (do
      let path ← key
      Scan.char '='
      blanks
      let setting ← value depthLimit
      pure (.assign path setting))
  let read ← header
  lineRest
  pure read

/-- What stands on a line: nothing, a comment or a statement. -/
def line : Scan (Option Statement) := do
  blanks
  match ← Scan.peek with
  | some '#' => do
    comment
    lineEnd <|> Scan.atEnd
    pure none
  | some '\n' => do
    lineEnd
    pure none
  | some '\r' => do
    lineEnd
    pure none
  | some _ => do pure (some (← statement))
  | none => Scan.refuse

/-- The statements of a document. -/
def statements : Scan (List Statement) := do
  let _ ← Scan.optional (Scan.char (Char.ofNat 0xFEFF))
  let lines ← Scan.repeated line
  blanks
  Scan.atEnd
  pure (lines.filterMap id)

/-- A document that is being carried out. -/
structure Progress where
  /-- The path of the table that was opened last. -/
  current : List String
  /-- The entries of the document. -/
  entries : Entries

/-- Carry out a statement. -/
def Progress.step (progress : Progress) : Statement → Option Progress
  | .table path => (Entries.openTable path progress.entries).map (⟨path, ·⟩)
  | .element path => (Entries.openElement path progress.entries).map (⟨path, ·⟩)
  | .assign path value =>
    (Entries.assignWithin progress.current path value progress.entries).map
      (⟨progress.current, ·⟩)

/-- The table that a document stands for. -/
def read? (document : String) : Option Setting := do
  let (list, _) ← statements.run document.toList
  let progress ← list.foldlM Progress.step ⟨[], []⟩
  some (.table (entrySettings progress.entries))

end HttpGateway.Toml
