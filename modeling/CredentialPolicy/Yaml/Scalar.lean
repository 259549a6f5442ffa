import CredentialPolicy.Yaml.Cursor
import CredentialPolicy.Number

namespace CredentialPolicy.Yaml

structure Scanned where
  value : String
  rest : List Char
  mark : Mark
  brokeLine : Bool

/-- A scalar that may run over several lines, read so far. The gap behind `text` is kept apart
until it is known whether the scalar goes on. All lists have their last character first. -/
structure Folding where
  text : List Char
  blanks : List Char
  /-- The first line break of the gap; an escaped break is empty. -/
  firstBreak : Option (List Char)
  laterBreaks : List Char

def Folding.start : Folding :=
  ⟨[], [], none, []⟩

def Folding.join (f : Folding) : List Char :=
  match f.firstBreak with
  | none => f.blanks ++ f.text
  | some ['\n'] => if f.laterBreaks.isEmpty then ' ' :: f.text else f.laterBreaks ++ f.text
  | some first => f.laterBreaks ++ (first ++ f.text)

def Folding.push (f : Folding) (c : Char) : Folding :=
  ⟨c :: f.join, [], none, []⟩

def Folding.gap (f : Folding) (c : Char) : Folding :=
  if f.firstBreak.isSome then f else { f with blanks := c :: f.blanks }

def Folding.break (f : Folding) (c : Char) : Folding :=
  if f.firstBreak.isSome then { f with laterBreaks := c :: f.laterBreaks }
  else { f with blanks := [], firstBreak := some [c] }

def Folding.inGap (f : Folding) : Bool :=
  !f.blanks.isEmpty || f.firstBreak.isSome

def plainEnds (inFlow : Bool) (c : Char) (rest : List Char) : Bool :=
  (c = ':' && atGap rest) || (inFlow && isFlowIndicator c)

def plainClashes (inFlow : Bool) (c : Char) (rest : List Char) : Bool :=
  inFlow && c = ':' && rest.head?.any fun d => isFlowIndicator d || d = '?'

def plainFrom (inFlow : Bool) (indent : Int) (f : Folding) (m : Mark) : List Char → Option Scanned
  | [] => some ⟨String.ofList f.text.reverse, [], m, f.firstBreak.isSome⟩
  | c :: rest =>
    if isGap c then
      if f.firstBreak.isSome && m.column < indent && c = '\t' then none
      else plainFrom inFlow indent (f.gap c) (m.after c) rest
    else if isBreak c then plainFrom inFlow indent (f.break c) (m.after c) rest
    else if (f.firstBreak.isSome && !inFlow && m.column < indent) ||
        (f.inGap && (c = '#' || (m.column = 0 && atDocumentLine (c :: rest)))) then
      some ⟨String.ofList f.text.reverse, c :: rest, m, f.firstBreak.isSome⟩
    else if plainClashes inFlow c rest then none
    else if plainEnds inFlow c rest then
      some ⟨String.ofList f.text.reverse, c :: rest, m, f.firstBreak.isSome⟩
    else plainFrom inFlow indent (f.push c) (m.after c) rest

def singleFrom (f : Folding) (m : Mark) : List Char → Option Scanned
  | [] => none
  | '\'' :: '\'' :: rest => singleFrom (f.push '\'') (m.skip 2) rest
  | c :: rest =>
    if c = '\'' then some ⟨String.ofList f.join.reverse, rest, m.after c, false⟩
    else if isGap c then singleFrom (f.gap c) (m.after c) rest
    else if isBreak c then singleFrom (f.break c) (m.after c) rest
    else if m.column = 0 && atDocumentLine (c :: rest) then none
    else singleFrom (f.push c) (m.after c) rest

def escape? : Char → Option Char
  | '0' => some '\x00'
  | 'a' => some '\x07'
  | 'b' => some '\x08'
  | 't' => some '\t'
  | '\t' => some '\t'
  | 'n' => some '\n'
  | 'v' => some '\x0b'
  | 'f' => some '\x0c'
  | 'r' => some '\r'
  | 'e' => some '\x1b'
  | ' ' => some ' '
  | '"' => some '"'
  | '/' => some '/'
  | '\\' => some '\\'
  | 'N' => some (Char.ofNat 0x85)
  | '_' => some (Char.ofNat 0xA0)
  | 'L' => some (Char.ofNat 0x2028)
  | 'P' => some (Char.ofNat 0x2029)
  | _ => none

def codePoint? (digits : List Char) : Option Char :=
  (Number.ofDigits? 16 digits).bind fun n =>
    if n < 0xD800 ∨ (0xE000 ≤ n ∧ n ≤ 0x10FFFF) then some (Char.ofNat n) else none

def doubleFrom (f : Folding) (m : Mark) : List Char → Option Scanned
  | [] => none
  | '\\' :: 'x' :: a :: b :: rest =>
    match codePoint? [a, b] with
    | some c => doubleFrom (f.push c) (m.skip 4) rest
    | none => none
  | '\\' :: 'u' :: a :: b :: c :: d :: rest =>
    match codePoint? [a, b, c, d] with
    | some image => doubleFrom (f.push image) (m.skip 6) rest
    | none => none
  | '\\' :: 'U' :: a :: b :: c :: d :: e :: g :: h :: i :: rest =>
    match codePoint? [a, b, c, d, e, g, h, i] with
    | some image => doubleFrom (f.push image) (m.skip 10) rest
    | none => none
  | '\\' :: c :: rest =>
    if isBreak c then doubleFrom ⟨f.join, [], some [], []⟩ ((m.skip 1).after c) rest
    else
      match escape? c with
      | some image => doubleFrom (f.push image) (m.skip 2) rest
      | none => none
  | c :: rest =>
    if c = '"' then some ⟨String.ofList f.join.reverse, rest, m.after c, false⟩
    else if c = '\\' then none
    else if isGap c then doubleFrom (f.gap c) (m.after c) rest
    else if isBreak c then doubleFrom (f.break c) (m.after c) rest
    else if m.column = 0 && atDocumentLine (c :: rest) then none
    else doubleFrom (f.push c) (m.after c) rest

inductive Chomping
  | strip
  | clip
  | keep
deriving DecidableEq, Repr

structure BlockStyle where
  literal : Bool
  chomping : Chomping
  indentation : Option Nat

def chompingOf? : Char → Option Chomping
  | '-' => some .strip
  | '+' => some .keep
  | _ => none

def indentationOf? (c : Char) : Option Nat :=
  if '1' ≤ c ∧ c ≤ '9' then some (c.toNat - '0'.toNat) else none

def blockHeader (literal : Bool) : List Char → BlockStyle × Nat
  | a :: b :: _ =>
    match chompingOf? a, indentationOf? a, chompingOf? b, indentationOf? b with
    | some chomping, _, _, some n => (⟨literal, chomping, some n⟩, 2)
    | some chomping, _, _, none => (⟨literal, chomping, none⟩, 1)
    | none, some n, some chomping, _ => (⟨literal, chomping, some n⟩, 2)
    | none, some n, none, _ => (⟨literal, .clip, some n⟩, 1)
    | none, none, _, _ => (⟨literal, .clip, none⟩, 0)
  | [a] =>
    match chompingOf? a, indentationOf? a with
    | some chomping, _ => (⟨literal, chomping, none⟩, 1)
    | none, some n => (⟨literal, .clip, some n⟩, 1)
    | none, none => (⟨literal, .clip, none⟩, 0)
  | [] => (⟨literal, .clip, none⟩, 0)

structure Block where
  indent : Option Nat
  deepest : Nat
  inLine : Bool
  text : List Char
  firstBreak : List Char
  laterBreaks : List Char
  afterBlank : Bool

def Block.finish (style : BlockStyle) (b : Block) (rest : List Char) (m : Mark) : Scanned :=
  let text := if style.chomping = .strip then b.text else b.firstBreak ++ b.text
  let text := if style.chomping = .keep then b.laterBreaks ++ text else text
  ⟨String.ofList text.reverse, rest, m, true⟩

def Block.openLine (style : BlockStyle) (b : Block) (indent : Nat) (c : Char) : Block :=
  let folds := !style.literal && b.firstBreak = ['\n'] && !b.afterBlank && !isGap c
  let text :=
    if folds then (if b.laterBreaks.isEmpty then ' ' :: b.text else b.text)
    else b.firstBreak ++ b.text
  { indent := some indent, deepest := 0, inLine := true, text := c :: (b.laterBreaks ++ text),
    firstBreak := [], laterBreaks := [], afterBlank := isGap c }

def settledIndent (parent : Int) (deepest : Nat) : Nat :=
  max deepest (max (parent + 1).toNat 1)

def blockFrom (style : BlockStyle) (parent : Int) (b : Block) (m : Mark) :
    List Char → Option Scanned
  | [] => some (b.finish style [] m)
  | c :: rest =>
    if b.inLine then
      if isBreak c then
        blockFrom style parent { b with inLine := false, firstBreak := [c] } (m.after c) rest
      else blockFrom style parent { b with text := c :: b.text } (m.after c) rest
    else if b.indent.all (m.column < ·) && c = ' ' then
      blockFrom style parent { b with deepest := max b.deepest (m.column + 1) } (m.after c) rest
    else if b.indent.all (m.column < ·) && c = '\t' then none
    else if isBreak c then
      blockFrom style parent { b with laterBreaks := c :: b.laterBreaks } (m.after c) rest
    else
      let indent := b.indent.getD (settledIndent parent b.deepest)
      if m.column = indent then
        blockFrom style parent (b.openLine style indent c) (m.after c) rest
      else some (b.finish style (c :: rest) m)

def block? (literal : Bool) (parent : Int) (m : Mark) (text : List Char) : Option Scanned :=
  let (style, size) := blockHeader literal text
  let blanks := ((text.drop size).takeWhile isGap).length
  let tail := text.drop (size + blanks)
  let comment := if tail.head? = some '#' then (tail.takeWhile (!isBreak ·)).length else 0
  let m := m.skip (size + blanks + comment)
  let indent := style.indentation.map fun n => (if 0 ≤ parent then parent.toNat else 0) + n
  let start : Block := ⟨indent, 0, false, [], [], [], false⟩
  match tail.drop comment with
  | [] => blockFrom style parent start m []
  | c :: rest => if isBreak c then blockFrom style parent start (m.after c) rest else none

end CredentialPolicy.Yaml
