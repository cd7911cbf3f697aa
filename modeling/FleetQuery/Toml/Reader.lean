import FleetQuery.Text.Blank
import FleetQuery.Toml.Scalar
import FleetQuery.Toml.Value

/-!
# Reading TOML

Keys and values are taken off the front of a text; a document is read line by line.  Any fault
refuses the whole document.  Values may be nested to a depth of `maxDepth`, and keys may have
as many parts.
-/

namespace FleetQuery

namespace Toml

/-- The greatest number of brackets and braces around a value, and of parts of a dotted key. -/
def maxDepth : Nat := 79

/-- A space or a tab. -/
def isSpace (c : Char) : Bool := c == ' ' || c == '\t'

/-- A character that comments and texts may hold: no control character but the tab. -/
def isPlain (c : Char) : Bool := c == '\t' || (0x20 ≤ c.toNat && c.toNat != 0x7F)

/-- The text after its leading spaces. -/
def skipSpaces (s : List Char) : List Char := s.dropWhile isSpace

/-- The text after a line break. -/
def lineBreak? : List Char → Option (List Char)
  | '\n' :: s => some s
  | '\r' :: '\n' :: s => some s
  | _ => none

/-- The text after a comment, if one stands at its front. -/
def skipComment : List Char → List Char
  | '#' :: s => s.dropWhile isPlain
  | s => s

/-- The text after the rest of a line: spaces, a comment, and a line break or the end. -/
def endLine? (s : List Char) : Option (List Char) :=
  match skipComment (skipSpaces s) with
  | [] => some []
  | s => lineBreak? s

/-- The text after spaces, comments and line breaks, in at most `n` steps. -/
def skipLines : Nat → List Char → List Char
  | 0, s => s
  | n + 1, s =>
    let s := skipComment (skipSpaces s)
    match lineBreak? s with
    | some s => skipLines n s
    | none => s

/-- The text after spaces and line breaks, in at most `n` steps. -/
def skipBreaks : Nat → List Char → List Char
  | 0, s => s
  | n + 1, s =>
    let s := skipSpaces s
    match lineBreak? s with
    | some s => skipBreaks n s
    | none => s

/-! ### Texts -/

/-- The character with a given code point in hexadecimal. -/
def codePoint? (width : Nat) (s : List Char) : Option (Char × List Char) :=
  let digits := s.take width
  if digits.length == width && digits.all isHexDigit then
    let n := valueTo 16 digits
    if n < 0xD800 || (0xDFFF < n && n < 0x110000) then some (Char.ofNat n, s.drop width) else none
  else none

/-- The character that an escape denotes, after its backslash. -/
def escape? : List Char → Option (Char × List Char)
  | 'b' :: s => some ('\x08', s)
  | 't' :: s => some ('\t', s)
  | 'n' :: s => some ('\n', s)
  | 'f' :: s => some ('\x0c', s)
  | 'r' :: s => some ('\r', s)
  | '"' :: s => some ('"', s)
  | '\\' :: s => some ('\\', s)
  | 'u' :: s => codePoint? 4 s
  | 'U' :: s => codePoint? 8 s
  | _ => none

/-- The characters of a text on one line, up to its quote; `escapes` tells whether a backslash
starts an escape. -/
def lineText? (quote : Char) (escapes : Bool) : Nat → List Char → Option (List Char × List Char)
  | 0, _ => none
  | _ + 1, [] => none
  | n + 1, c :: s =>
    if c == quote then some ([], s)
    else if escapes && c == '\\' then do
      let (c, s) ← escape? s
      let (cs, s) ← lineText? quote escapes n s
      some (c :: cs, s)
    else if isPlain c then do
      let (cs, s) ← lineText? quote escapes n s
      some (c :: cs, s)
    else none

/-- The characters of a text on several lines, up to its three quotes.  One or two quotes more
belong to the text; a backslash at the end of a line skips to the next character that is
neither space nor line break. -/
def linesText? (quote : Char) (escapes : Bool) : Nat → List Char → Option (List Char × List Char)
  | 0, _ => none
  | _ + 1, [] => none
  | n + 1, c :: s =>
    if c == quote then
      let quotes := (c :: s).takeWhile (· == quote)
      let rest := (c :: s).dropWhile (· == quote)
      if 5 < quotes.length then none
      else if 3 ≤ quotes.length then some (quotes.drop 3, rest)
      else do
        let (cs, s) ← linesText? quote escapes n rest
        some (quotes ++ cs, s)
    else if escapes && c == '\\' then
      match lineBreak? (skipSpaces s) with
      | some s => linesText? quote escapes n (skipBreaks s.length s)
      | none => do
        let (c, s) ← escape? s
        let (cs, s) ← linesText? quote escapes n s
        some (c :: cs, s)
    else
      match lineBreak? (c :: s) with
      | some s => do
        let (cs, s) ← linesText? quote escapes n s
        some ('\n' :: cs, s)
      | none =>
        if isPlain c then do
          let (cs, s) ← linesText? quote escapes n s
          some (c :: cs, s)
        else none

/-- A text on several lines after its opening quotes; a line break right after them is dropped. -/
def openedLines? (quote : Char) (escapes : Bool) (s : List Char) :
    Option (List Char × List Char) :=
  let s := (lineBreak? s).getD s
  linesText? quote escapes (s.length + 1) s

/-- A text after its first quote. -/
def text? (quote : Char) (escapes : Bool) (s : List Char) : Option (List Char × List Char) :=
  match s with
  | c :: d :: rest =>
    if c == quote && d == quote then openedLines? quote escapes rest
    else lineText? quote escapes (s.length + 1) s
  | s => lineText? quote escapes (s.length + 1) s

/-! ### Keys -/

/-- A character of a bare key. -/
def isBareKeyChar (c : Char) : Bool :=
  isDigit c || ('a' ≤ c && c ≤ 'z') || ('A' ≤ c && c ≤ 'Z') || c == '_' || c == '-'

/-- One part of a key. -/
def keyPart? : List Char → Option (String × List Char)
  | '"' :: s => do
    let (cs, s) ← lineText? '"' true (s.length + 1) s
    some (String.ofList cs, s)
  | '\'' :: s => do
    let (cs, s) ← lineText? '\'' false (s.length + 1) s
    some (String.ofList cs, s)
  | s =>
    match s.takeWhile isBareKeyChar with
    | [] => none
    | cs => some (String.ofList cs, s.dropWhile isBareKeyChar)

/-- A key of at most `n` parts with points between them, as its first parts and its last one;
spaces may stand around every part. -/
def key? : Nat → List Char → Option ((List String × String) × List Char)
  | 0, _ => none
  | n + 1, s => do
    let (part, s) ← keyPart? (skipSpaces s)
    match skipSpaces s with
    | '.' :: s => do
      let ((path, last), s) ← key? n s
      some ((part :: path, last), s)
    | s => some (([], part), s)

/-! ### Values -/

/-- A character of a number, a truth value or a date. -/
def isScalarChar (c : Char) : Bool := isBareKeyChar c || c == '+' || c == '.' || c == ':'

/-- The time of day after a day and a space. -/
def spacedTime : List Char → List Char × List Char
  | ' ' :: a :: b :: ':' :: s =>
    if isDigit a && isDigit b then
      (' ' :: a :: b :: ':' :: s.takeWhile isScalarChar, s.dropWhile isScalarChar)
    else ([], ' ' :: a :: b :: ':' :: s)
  | s => ([], s)

/-- A number, a truth value or a date. -/
def plainValue? (s : List Char) : Option (Value × List Char) :=
  let token := s.takeWhile isScalarChar
  let rest := s.dropWhile isScalarChar
  if isScalar token then some (.scalar, rest)
  else
    let (time, rest) := if isDay token then spacedTime rest else ([], rest)
    if isMoment (token ++ time) then some (.moment, rest) else none

/-- The items of an array up to its bracket, in at most `n` steps. -/
def items? (value? : List Char → Option (Value × List Char)) :
    Nat → List Char → Option (List Value × List Char)
  | 0, _ => none
  | n + 1, s =>
    match skipLines s.length s with
    | ']' :: s => some ([], s)
    | s => do
      let (v, s) ← value? s
      match skipLines s.length s with
      | ',' :: s => do
        let (vs, s) ← items? value? n s
        some (v :: vs, s)
      | ']' :: s => some ([v], s)
      | _ => none

/-- The members of a table in braces up to its closing brace, in at most `n` steps. -/
def members? (value? : List Char → Option (Value × List Char)) :
    Nat → Entries → List Char → Option (Entries × List Char)
  | 0, _, _ => none
  | n + 1, es, s => do
    let ((path, key), s) ← key? maxDepth s
    match s with
    | '=' :: s => do
      let (v, s) ← value? (skipSpaces s)
      let es ← assign? .braces es path key v
      match skipSpaces s with
      | ',' :: s => members? value? n es s
      | '\x7d' :: s => some (es, s)
      | _ => none
    | _ => none

/-- A value with at most `depth` brackets and braces around values inside it. -/
def value? : Nat → List Char → Option (Value × List Char)
  | depth, s =>
    match s with
    | '"' :: s => do
      let (cs, s) ← text? '"' true s
      some (.text (String.ofList cs), s)
    | '\'' :: s => do
      let (cs, s) ← text? '\'' false s
      some (.text (String.ofList cs), s)
    | '[' :: s =>
      match depth with
      | 0 => none
      | depth + 1 => do
        let (vs, s) ← items? (value? depth) (s.length + 1) s
        some (.array vs, s)
    | '\x7b' :: s =>
      match depth with
      | 0 => none
      | depth + 1 =>
        match skipSpaces s with
        | '\x7d' :: s => some (.table .braces [], s)
        | s => do
          let (es, s) ← members? (value? depth) (s.length + 1) [] s
          some (.table .braces es, s)
    | s => plainValue? s
  termination_by structural depth => depth

/-! ### Documents -/

/-- A document as far as it has been read. -/
structure Draft where
  /-- The tables that are complete. -/
  root : Entries := []
  /-- The path to the table that lines are added to, `none` for the document itself. -/
  path? : Option (List String × String) := none
  /-- The header of that table is one that may be repeated. -/
  isRepeated : Bool := false
  /-- What has been added to that table. -/
  current : Entries := []

namespace Draft

/-- Put the table that lines were added to in its place. -/
def close? (d : Draft) : Option Entries :=
  match d.path? with
  | none => some d.current
  | some (path, key) =>
    (changeAt? false
      (fun _ es =>
        match d.isRepeated, es.lookup key with
        | true, none => some ((), es.put key (.tables [d.current]))
        | true, some (.tables items) => some ((), es.put key (.tables (items ++ [d.current])))
        | false, none => some ((), es.put key (.table .header d.current))
        | _, some _ => none)
      path .header d.root).map (·.2)

/-- Go on with the table under a header of its own.  A table that was only implied keeps what it
holds; any other value under the key is a fault. -/
def enter? (d : Draft) (path : List String) (key : String) : Option Draft := do
  let root ← d.close?
  let (kept, root) ← changeAt? false
    (fun _ es =>
      match es.lookup key with
      | none => some ([], es)
      | some (.table .implied kept) => some (kept, es.drop key)
      | some _ => none)
    path .header root
  some ⟨root, some (path, key), false, kept⟩

/-- Go on with a further table under a repeated header. -/
def enterRepeated? (d : Draft) (path : List String) (key : String) : Option Draft := do
  let root ← d.close?
  let (_, root) ← changeAt? false
    (fun _ es =>
      match es.lookup key with
      | none => some ((), es)
      | some (.tables _) => some ((), es)
      | some _ => none)
    path .header root
  some ⟨root, some (path, key), true, []⟩

/-- Add a value to the current table. -/
def add? (d : Draft) (path : List String) (key : String) (v : Value) : Option Draft := do
  let current ← assign? .header d.current path key v
  some { d with current }

end Draft

/-- Read one line that is not blank. -/
def line? (d : Draft) (s : List Char) : Option (Draft × List Char) :=
  match s with
  | '[' :: '[' :: s => do
    let ((path, key), s) ← key? maxDepth s
    match s with
    | ']' :: ']' :: s => some (← d.enterRepeated? path key, ← endLine? s)
    | _ => none
  | '[' :: s => do
    let ((path, key), s) ← key? maxDepth s
    match s with
    | ']' :: s => some (← d.enter? path key, ← endLine? s)
    | _ => none
  | s => do
    let ((path, key), s) ← key? maxDepth s
    match s with
    | '=' :: s => do
      let (v, s) ← value? maxDepth (skipSpaces s)
      some (← d.add? path key v, ← endLine? s)
    | _ => none

/-- Read the lines of a document, in at most `n` steps. -/
def lines? : Nat → Draft → List Char → Option Draft
  | 0, _, _ => none
  | n + 1, d, s =>
    match skipLines s.length s with
    | [] => some d
    | s => do
      let (d, s) ← line? d s
      lines? n d s

/-- The entries of a document; a byte order mark may stand in front of it. -/
def read? (text : String) : Option Entries := do
  let s := match text.toList with
    | '\ufeff' :: s => s
    | s => s
  let d ← lines? (s.length + 1) {} s
  d.close?

end Toml

end FleetQuery
