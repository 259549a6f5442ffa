import CredentialPolicy.Json.Range
import CredentialPolicy.Node

namespace CredentialPolicy.Json

inductive Token
  | openList
  | closeList
  | openObject
  | closeObject
  | comma
  | colon
  | word (value : Leaf)
  /-- A quoted text, with no value if it names half of a surrogate pair. -/
  | text (value : Option String)

inductive Piece
  | char (c : Char)
  | surrogate (n : Nat)

def joinPieces : List Piece → Option (List Char)
  | [] => some []
  | .char c :: rest => (joinPieces rest).map (c :: ·)
  | .surrogate high :: .surrogate low :: rest =>
    if high < 0xDC00 ∧ 0xDC00 ≤ low then
      (joinPieces rest).map (Char.ofNat (0x10000 + (high - 0xD800) * 0x400 + (low - 0xDC00)) :: ·)
    else none
  | .surrogate _ :: _ => none

def pieceOf (n : Nat) : Piece :=
  if 0xD800 ≤ n ∧ n < 0xE000 then .surrogate n else .char (Char.ofNat n)

def isSpace (c : Char) : Bool :=
  c = ' ' || c = '\t' || c = '\n' || c = '\r'

def isWordChar (c : Char) : Bool :=
  Number.isDigit c || c.isAlpha || c = '+' || c = '-' || c = '.'

def numberLeaf? (negative : Bool) (word : List Char) : Option Leaf :=
  match Number.split? negative word with
  | none => none
  | some w =>
    if w.whole.isEmpty ∨ (1 < w.whole.length ∧ w.whole.head? = some '0') ∨ w.fraction = some [] then
      none
    else if !isInRange w then some .valueless
    else if w.fraction.isNone ∧ w.exponent.isNone then
      some (.int (Number.signed negative (Number.natural w.whole)))
    else some (.decimal w.decimal)

def wordLeaf? : List Char → Option Leaf
  | ['n', 'u', 'l', 'l'] => some .null
  | ['t', 'r', 'u', 'e'] => some (.bool true)
  | ['f', 'a', 'l', 's', 'e'] => some (.bool false)
  | '-' :: digits => numberLeaf? true digits
  | word => numberLeaf? false word

def punctuation? : Char → Option Token
  | '[' => some .openList
  | ']' => some .closeList
  | '\x7b' => some .openObject
  | '\x7d' => some .closeObject
  | ',' => some .comma
  | ':' => some .colon
  | _ => none

def escape? : Char → Option Char
  | '"' => some '"'
  | '\\' => some '\\'
  | '/' => some '/'
  | 'b' => some '\x08'
  | 'f' => some '\x0c'
  | 'n' => some '\n'
  | 'r' => some '\r'
  | 't' => some '\t'
  | _ => none

inductive Place
  | between
  | word (reversed : List Char)
  | quotes (reversed : List Piece)

def tokensFrom (done : List Token) : Place → List Char → Option (List Token)
  | .between, [] => some done.reverse
  | .between, c :: rest =>
    if isSpace c then tokensFrom done .between rest
    else if c = '"' then tokensFrom done (.quotes []) rest
    else if isWordChar c then tokensFrom done (.word [c]) rest
    else
      match punctuation? c with
      | some token => tokensFrom (token :: done) .between rest
      | none => none
  | .word reversed, [] =>
    (wordLeaf? reversed.reverse).map fun leaf => (Token.word leaf :: done).reverse
  | .word reversed, c :: rest =>
    if isWordChar c then tokensFrom done (.word (c :: reversed)) rest
    else
      match wordLeaf? reversed.reverse with
      | none => none
      | some leaf =>
        if isSpace c then tokensFrom (.word leaf :: done) .between rest
        else
          match punctuation? c with
          | some token => tokensFrom (token :: .word leaf :: done) .between rest
          | none => none
  | .quotes _, [] => none
  | .quotes reversed, '"' :: rest =>
    tokensFrom (.text ((joinPieces reversed.reverse).map String.ofList) :: done) .between rest
  | .quotes reversed, '\\' :: 'u' :: a :: b :: c :: d :: rest =>
    match Number.ofDigits? 16 [a, b, c, d] with
    | some n => tokensFrom done (.quotes (pieceOf n :: reversed)) rest
    | none => none
  | .quotes reversed, '\\' :: c :: rest =>
    match escape? c with
    | some image => tokensFrom done (.quotes (.char image :: reversed)) rest
    | none => none
  | .quotes reversed, c :: rest =>
    if c = '\\' ∨ c.toNat < 0x20 then none
    else tokensFrom done (.quotes (.char c :: reversed)) rest

def tokens? (text : String) : Option (List Token) :=
  tokensFrom [] .between text.toList

inductive Opened
  | list (reversed : List Node)
  | object (reversed : List (Leaf × Node)) (key : Leaf)

def keyLeaf : Option String → Leaf
  | some name => .text name
  | none => .valueless

mutual

def valueIn (opened : List Opened) : List Token → Option Node
  | .word leaf :: rest => afterValue opened (.leaf leaf) rest
  | .text value :: rest => afterValue opened (.leaf (keyLeaf value)) rest
  | .openList :: .closeList :: rest => afterValue opened (.list []) rest
  | .openList :: rest => valueIn (.list [] :: opened) rest
  | .openObject :: .closeObject :: rest => afterValue opened (.object []) rest
  | .openObject :: .text key :: .colon :: rest => valueIn (.object [] (keyLeaf key) :: opened) rest
  | _ => none

def afterValue (opened : List Opened) (value : Node) : List Token → Option Node
  | [] => if opened.isEmpty then some value else none
  | .comma :: rest =>
    match opened, rest with
    | .list reversed :: outer, rest => valueIn (.list (value :: reversed) :: outer) rest
    | .object reversed key :: outer, .text next :: .colon :: rest =>
      valueIn (.object ((key, value) :: reversed) (keyLeaf next) :: outer) rest
    | _, _ => none
  | .closeList :: rest =>
    match opened with
    | .list reversed :: outer => afterValue outer (.list (value :: reversed).reverse) rest
    | _ => none
  | .closeObject :: rest =>
    match opened with
    | .object reversed key :: outer =>
      afterValue outer (.object ((key, value) :: reversed).reverse) rest
    | _ => none
  | _ => none

end

def node? (text : String) : Option Node :=
  (tokens? text).bind (valueIn [])

end CredentialPolicy.Json
