import ClusterWatch.Json.Reader

namespace ClusterWatch.Yaml

structure Place where
  rest : List Char
  column : Nat
  deriving Repr

def isBlank (c : Char) : Bool :=
  c = ' ' || c = '\t'

def endsWord : List Char → Bool
  | [] => true
  | c :: _ => isBlank c || c = '\n'

def isFlowMark (c : Char) : Bool :=
  c = ',' || c = '[' || c = ']' || c = '\x7b' || c = '\x7d'

def Place.atMarker (p : Place) : Bool :=
  p.column = 0 && match p.rest with
    | '-' :: '-' :: '-' :: rest => endsWord rest
    | '.' :: '.' :: '.' :: rest => endsWord rest
    | _ => false

def Place.advance (p : Place) (n : Nat) : Place :=
  ⟨p.rest.drop n, p.column + n⟩

/-- Passes over blanks, comments and line ends, and tells whether there was a line end. Tabs are no indentation: they
are passed over only where `tabs` allows it, and after a line end where `flow` does. -/
def skip (flow : Bool) (tabs comment crossed : Bool) (column : Nat) : List Char → Place × Bool
  | [] => (⟨[], column⟩, crossed)
  | c :: rest =>
    if c = '\n' then skip flow flow false true 0 rest
    else if comment then skip flow tabs true crossed (column + 1) rest
    else if c = ' ' || (c = '\t' && tabs) then skip flow tabs false crossed (column + 1) rest
    else if c = '#' then skip flow tabs true crossed (column + 1) rest
    else (⟨c :: rest, column⟩, crossed)

/-- The end of one line of a plain scalar: the characters up to it, and what follows. `none` if a mark stands where
none may. -/
def plainLine (flow : Bool) (blankBefore : Bool) (taken : List Char) :
    List Char → Option (List Char × List Char)
  | [] => some (taken, [])
  | c :: rest =>
    if c = '\n' || (c = '#' && blankBefore) || (c = ':' && endsWord rest) ||
        (flow && isFlowMark c) then some (taken, c :: rest)
    else if flow && c = ':' && rest.head?.any fun d => isFlowMark d || d = '?' then none
    else plainLine flow (isBlank c) (c :: taken) rest

def lineBreaks (flow : Bool) (indent : Nat) (breaks column : Nat) : List Char → Option (Nat × Place)
  | [] => some (breaks, ⟨[], column⟩)
  | c :: rest =>
    if c = '\n' then lineBreaks flow indent (breaks + 1) 0 rest
    else if c = '\t' && column < indent then none
    else if isBlank c then lineBreaks flow indent breaks (column + 1) rest
    else some (breaks, ⟨c :: rest, column⟩)

/-- One break between lines is a blank; of more, all but the first are kept. -/
def folded (breaks : Nat) : List Char :=
  if breaks ≤ 1 then [' '] else List.replicate (breaks - 1) '\n'

def continuesPlain (flow : Bool) (indent : Nat) (p : Place) : Bool :=
  match p.rest with
  | [] => false
  | c :: rest =>
    (flow || indent ≤ p.column) && !p.atMarker && c ≠ '#' && !(c = ':' && endsWord rest) &&
      !(flow && isFlowMark c)

def plainScalar (flow : Bool) (indent : Nat) :
    Nat → List Char → Bool → Place → Option (List Char × Bool × Place)
  | 0, _, _, _ => none
  | fuel + 1, before, several, p => do
    let (reversed, rest) ← plainLine flow true [] p.rest
    let line := (reversed.dropWhile isBlank).reverse
    let text := before ++ line
    let stay : Place := ⟨rest, p.column + reversed.length⟩
    match rest with
    | '\n' :: _ =>
      let (breaks, next) ← lineBreaks flow indent 0 stay.column rest
      if continuesPlain flow indent next then
        plainScalar flow indent fuel (text ++ folded breaks) true next
      else some (text, several, stay)
    | _ => some (text, several, stay)

def hexNumber? (cs : List Char) : Option Nat :=
  cs.foldlM (fun n c => (Text.hexValue? c).map (n * 16 + ·)) 0

def numbered? (digits : Nat) (cs : List Char) : Option (Char × List Char) := do
  if cs.length < digits then none
  let n ← hexNumber? (cs.take digits)
  if n.isValidChar then some (Char.ofNat n, cs.drop digits) else none

def escaped? : List Char → Option (Char × List Char)
  | [] => none
  | e :: rest =>
    match e with
    | '0' => some ('\x00', rest)
    | 'a' => some ('\x07', rest)
    | 'b' => some ('\x08', rest)
    | 't' | '\t' => some ('\t', rest)
    | 'n' => some ('\n', rest)
    | 'v' => some ('\x0b', rest)
    | 'f' => some ('\x0c', rest)
    | 'r' => some ('\r', rest)
    | 'e' => some ('\x1b', rest)
    | ' ' => some (' ', rest)
    | '"' => some ('"', rest)
    | '/' => some ('/', rest)
    | '\\' => some ('\\', rest)
    | 'N' => some ('\u0085', rest)
    | '_' => some ('\u00a0', rest)
    | 'L' => some ('\u2028', rest)
    | 'P' => some ('\u2029', rest)
    | 'x' => numbered? 2 rest
    | 'u' => numbered? 4 rest
    | 'U' => numbered? 8 rest
    | _ => none

/-- Quoted text from behind its opening quote, onto what was read of it in reverse; `blanks` are those just passed, which
do not count at the end of a line. Tells whether it takes several lines. -/
def quotedScalar (quote : Char) :
    Nat → List Char → List Char → Bool → Place → Option (List Char × Bool × Place)
  | 0, _, _, _, _ => none
  | fuel + 1, taken, blanks, several, p =>
    if p.atMarker then none
    else match p.rest with
      | [] => none
      | c :: rest =>
        if c = quote then
          match quote, rest with
          | '\'', '\'' :: rest =>
            quotedScalar quote fuel ('\'' :: (blanks ++ taken)) [] several ⟨rest, p.column + 2⟩
          | _, _ => some ((blanks ++ taken).reverse, several, ⟨rest, p.column + 1⟩)
        else if c = '\n' then do
          let (breaks, next) ← lineBreaks true 0 0 p.column (c :: rest)
          quotedScalar quote fuel ((folded breaks).reverse ++ taken) [] true next
        else if c = '\\' && quote = '"' then
          match rest with
          | '\n' :: after => do
            let (breaks, next) ← lineBreaks true 0 0 0 after
            quotedScalar quote fuel (List.replicate breaks '\n' ++ blanks ++ taken) [] true next
          | _ => do
            let (e, after) ← escaped? rest
            quotedScalar quote fuel (e :: (blanks ++ taken)) [] several
              ⟨after, p.column + 1 + (rest.length - after.length)⟩
        else if isBlank c then
          quotedScalar quote fuel taken (c :: blanks) several ⟨rest, p.column + 1⟩
        else quotedScalar quote fuel (c :: (blanks ++ taken)) [] several ⟨rest, p.column + 1⟩

inductive Chomping where
  | strip
  | clip
  | keep
  deriving Repr, DecidableEq

def blockHeader (chomping : Chomping) (increment : Option Nat) :
    Nat → List Char → Option (Chomping × Option Nat × List Char)
  | 0, cs => some (chomping, increment, cs)
  | n + 1, cs =>
    match cs with
    | '-' :: rest => blockHeader .strip increment n rest
    | '+' :: rest => blockHeader .keep increment n rest
    | c :: rest =>
      if '1' ≤ c ∧ c ≤ '9' then blockHeader chomping (some (c.toNat - 48)) n rest
      else if c = '0' then none
      else some (chomping, increment, cs)
    | [] => some (chomping, increment, cs)

def measured (cs : List Char) : List (Nat × List Char) :=
  (cs.splitOn '\n').map fun line => ((line.takeWhile (· = ' ')).length, line)

def blockLines (indent : Nat) (lines : List (Nat × List Char)) : List (List Char) :=
  (lines.takeWhile fun (n, line) => indent ≤ n || n = line.length).map fun (_, line) =>
    line.drop indent

/-- The indentation of a block is that of its first line that is not blank, or of the longest blank line before it. -/
def blockIndent (least : Nat) (lines : List (Nat × List Char)) : Nat :=
  let blank := lines.takeWhile fun (n, line) => n = line.length
  let first := (lines.drop blank.length).head?.map Prod.fst
  max least (first.getD ((blank.map Prod.fst).foldl max 0))

/-- Lines joined in a folded block: a break between two lines that do not begin with a blank becomes a blank. -/
def foldLines : List (List Char) → Bool → Nat → List Char
  | [], _, _ => []
  | line :: rest, textBefore, breaks =>
    if line.isEmpty then foldLines rest textBefore (breaks + 1)
    else
      let isText := !(line.head?.any isBlank)
      let joint :=
        if breaks = 0 then []
        else if textBefore && isText then folded breaks
        else List.replicate breaks '\n'
      joint ++ line ++ foldLines rest isText 1

def chomped (chomping : Chomping) (text : List Char) (breaks : Nat) : List Char :=
  match chomping with
  | .strip => text
  | .clip => if text.isEmpty || breaks = 0 then text else text ++ ['\n']
  | .keep => text ++ List.replicate breaks '\n'

def blockScalar (folding : Bool) (parent : Int) (p : Place) : Option (List Char × Place) := do
  let (chomping, increment, rest) ← blockHeader .clip none 2 p.rest
  let (after, crossed) := skip false true false false (p.column + 1) (rest.takeWhile (· ≠ '\n'))
  if !after.rest.isEmpty || crossed then none
  let body := rest.dropWhile (· ≠ '\n')
  match body with
  | [] => some ([], ⟨[], 0⟩)
  | _ :: body =>
    let lines := measured body
    let least := (max (parent + 1) 1).toNat
    let indent := match increment with
      | some n => (max parent 0).toNat + n
      | none => blockIndent least lines
    let taken := blockLines indent lines
    let used := taken.length
    let texts := (taken.reverse.dropWhile List.isEmpty).reverse
    let open? := used = lines.length
    let breaks := used - texts.length + 1 - (if open? then 1 else 0)
    let text := if folding then foldLines texts true 0 else List.intercalate ['\n'] texts
    let left := List.intercalate ['\n'] ((lines.drop used).map Prod.snd)
    let chars := if texts.isEmpty then
      (if chomping = .keep then List.replicate (breaks - 1) '\n' else [])
      else chomped chomping text breaks
    some (chars, ⟨left, 0⟩)

end ClusterWatch.Yaml
