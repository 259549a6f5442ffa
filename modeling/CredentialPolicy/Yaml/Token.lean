import CredentialPolicy.Yaml.Scalar

/-!
The tokens of a YAML text. Block structure is made explicit here: where the indentation grows or
shrinks, tokens open and close a collection. That a scalar or a flow collection is the key of a
mapping shows only at the colon behind it; the tokens that say so are then put in front of it.

Anchors, aliases, tags and directives are not read.
-/

namespace CredentialPolicy.Yaml

inductive Token
  | documentStart
  | documentEnd
  | openBlockList
  | openBlockMapping
  | closeBlock
  | openFlowList
  | closeFlowList
  | openFlowMapping
  | closeFlowMapping
  | item
  | comma
  | key
  | value
  | plain (text : String)
  | quoted (text : String)
deriving DecidableEq, Repr

structure PossibleKey where
  position : Nat
  mark : Mark
  required : Bool

structure Scanner where
  rest : List Char
  mark : Mark
  tokens : Array Token
  indents : List Nat
  /-- The possible key of each open flow collection, innermost first, and of the block around
  them. -/
  keys : List (Option PossibleKey)
  keyAllowed : Bool

namespace Scanner

def start (text : List Char) : Scanner :=
  ⟨text, Mark.start, #[], [], [none], true⟩

def inFlow (s : Scanner) : Bool :=
  1 < s.keys.length

def indent (s : Scanner) : Int :=
  match s.indents with
  | [] => -1
  | column :: _ => column

def push (s : Scanner) (t : Token) : Scanner :=
  { s with tokens := s.tokens.push t }

def insertToken (s : Scanner) (position : Nat) (t : Token) : Scanner :=
  { s with
    tokens := s.tokens.extract 0 position ++ #[t] ++ s.tokens.extract position s.tokens.size }

def advance (s : Scanner) (n : Nat) : Scanner :=
  { s with rest := s.rest.drop n, mark := s.mark.skip n }

/-- A byte order mark may begin a line. It takes a column of its own. -/
def isOrderMark (m : Mark) (c : Char) : Bool :=
  m.column = 0 && c.toNat = 0xFEFF

def skipGapFrom (flow : Bool) (keyAllowed : Bool) (comment : Bool) (m : Mark) :
    List Char → List Char × Mark × Bool
  | [] => ([], m, keyAllowed)
  | c :: rest =>
    if isBreak c then skipGapFrom flow (keyAllowed || !flow) false (m.after c) rest
    else if comment || c = ' ' || c = '#' || (c = '\t' && (flow || !keyAllowed)) ||
        isOrderMark m c then
      skipGapFrom flow keyAllowed (comment || c = '#') (m.after c) rest
    else (c :: rest, m, keyAllowed)

def skipGap (s : Scanner) : Scanner :=
  let (rest, mark, keyAllowed) := skipGapFrom s.inFlow s.keyAllowed false s.mark s.rest
  { s with rest, mark, keyAllowed }

def PossibleKey.expired (k : PossibleKey) (m : Mark) : Bool :=
  k.mark.line < m.line || k.mark.index + 1024 < m.index

def dropExpired (s : Scanner) : Option Scanner :=
  let gone (k : Option PossibleKey) : Bool := k.any fun k => PossibleKey.expired k s.mark
  if s.keys.any fun k => gone k && k.any (·.required) then none
  else some { s with keys := s.keys.map fun k => if gone k then none else k }

def closeBlocks (s : Scanner) (column : Int) : Scanner :=
  if s.inFlow then s
  else
    let deeper := s.indents.takeWhile fun c : Nat => column < c
    { s with
      indents := s.indents.drop deeper.length
      tokens := s.tokens ++ Array.replicate deeper.length Token.closeBlock }

def openBlock (s : Scanner) (column position : Nat) (t : Token) : Scanner :=
  if !s.inFlow && s.indent < column then
    { s.insertToken position t with indents := column :: s.indents }
  else s

def forgetKey (s : Scanner) : Option Scanner :=
  match s.keys with
  | some k :: outer => if k.required then none else some { s with keys := none :: outer }
  | _ => some s

def rememberKey (s : Scanner) : Option Scanner :=
  if s.keyAllowed then
    let required := !s.inFlow && s.indent = s.mark.column
    s.forgetKey.map fun s =>
      { s with keys := some ⟨s.tokens.size, s.mark, required⟩ :: s.keys.tail }
  else some s

def documentLine (s : Scanner) (t : Token) : Option Scanner :=
  (s.closeBlocks (-1)).forgetKey.map fun s =>
    { (s.push t).advance 3 with keyAllowed := false }

def openFlow (s : Scanner) (t : Token) : Option Scanner :=
  s.rememberKey.map fun s =>
    { (s.push t).advance 1 with keys := none :: s.keys, keyAllowed := true }

def closeFlow (s : Scanner) (t : Token) : Option Scanner :=
  s.forgetKey.map fun s =>
    { (s.push t).advance 1 with
      keys := if s.inFlow then s.keys.tail else s.keys
      keyAllowed := false }

def comma (s : Scanner) : Option Scanner :=
  s.forgetKey.map fun s => { (s.push .comma).advance 1 with keyAllowed := true }

def item (s : Scanner) : Option Scanner :=
  if !s.inFlow && !s.keyAllowed then none
  else
    (s.openBlock s.mark.column s.tokens.size .openBlockList).forgetKey.map fun s =>
      { (s.push .item).advance 1 with keyAllowed := true }

def explicitKey (s : Scanner) : Option Scanner :=
  if !s.inFlow && !s.keyAllowed then none
  else
    (s.openBlock s.mark.column s.tokens.size .openBlockMapping).forgetKey.map fun s =>
      { (s.push .key).advance 1 with keyAllowed := !s.inFlow }

def colon (s : Scanner) : Option Scanner :=
  match s.keys with
  | some k :: outer =>
    let s := (s.insertToken k.position .key).openBlock k.mark.column k.position .openBlockMapping
    some { (s.push .value).advance 1 with keys := none :: outer, keyAllowed := false }
  | _ =>
    if !s.inFlow && !s.keyAllowed then none
    else
      let s := s.openBlock s.mark.column s.tokens.size .openBlockMapping
      some { (s.push .value).advance 1 with keyAllowed := !s.inFlow }

def scalar (s : Scanner) (token : String → Token) (keyAllowed : Scanned → Bool)
    (scanned : Option Scanned) : Option Scanner :=
  scanned.map fun r =>
    { s.push (token r.value) with rest := r.rest, mark := r.mark, keyAllowed := keyAllowed r }

def block (s : Scanner) (literal : Bool) : Option Scanner :=
  s.forgetKey.bind fun s =>
    s.scalar .quoted (fun _ => true) (block? literal s.indent (s.mark.skip 1) (s.rest.drop 1))

def quotes (s : Scanner) (single : Bool) : Option Scanner :=
  s.rememberKey.bind fun s =>
    let read := if single then singleFrom else doubleFrom
    s.scalar .quoted (fun _ => false) (read Folding.start (s.mark.skip 1) (s.rest.drop 1))

def plain (s : Scanner) : Option Scanner :=
  s.rememberKey.bind fun s =>
    s.scalar .plain (·.brokeLine) (plainFrom s.inFlow (s.indent + 1) Folding.start s.mark s.rest)

def isIndicator (c : Char) : Bool :=
  isFlowIndicator c || "-?:#&*!|>'\"%@\x60".toList.contains c

def startsPlain (s : Scanner) (c : Char) (rest : List Char) : Bool :=
  (!isIndicator c && !isGap c) || (c = '-' && !atGap rest) ||
    (!s.inFlow && (c = '?' || c = ':') && !atGap rest)

def token (s : Scanner) (c : Char) (rest : List Char) : Option Scanner :=
  if s.mark.column = 0 && atDocumentLine (c :: rest) then
    s.documentLine (if c = '-' then .documentStart else .documentEnd)
  else if c = '[' then s.openFlow .openFlowList
  else if c = '\x7b' then s.openFlow .openFlowMapping
  else if c = ']' then s.closeFlow .closeFlowList
  else if c = '\x7d' then s.closeFlow .closeFlowMapping
  else if c = ',' then s.comma
  else if c = '-' && atGap rest then s.item
  else if c = '?' && (s.inFlow || atGap rest) then s.explicitKey
  else if c = ':' && (s.inFlow || atGap rest) then s.colon
  else if c = '|' && !s.inFlow then s.block true
  else if c = '>' && !s.inFlow then s.block false
  else if c = '\'' then s.quotes true
  else if c = '"' then s.quotes false
  else if s.startsPlain c rest then s.plain
  else none

def step (s : Scanner) : Option Scanner :=
  s.skipGap.dropExpired.bind fun s =>
    let s := s.closeBlocks s.mark.column
    match s.rest with
    | [] => some s
    | c :: rest => s.token c rest

def finish (s : Scanner) : Option (List Token) :=
  let closed := closeBlocks { s with keys := s.keys.take 1 } (-1)
  closed.forgetKey.map fun s => s.tokens.toList

def run (size : Nat) (s : Scanner) : Option (List Token) :=
  match s.step with
  | none => none
  | some next =>
    if next.rest.isEmpty then next.finish
    else if s.mark.index < next.mark.index ∧ next.mark.index ≤ size then run size next
    else none
termination_by size - s.mark.index

end Scanner

def tokens? (text : String) : Option (List Token) :=
  if text.toList.all isAllowed then
    let uniform := uniformBreaks text.toList
    (Scanner.start uniform).run uniform.length
  else none

end CredentialPolicy.Yaml
