import SqliteReader.Sql.Error
import SqliteReader.Sql.Keyword
import SqliteReader.Sql.Name
import SqliteReader.Text

/-!
# Tokens

The words, numbers, quoted texts and signs that a statement is made of. `Token.ofText` cuts the text of
statements into tokens, each as long as it can be. Blanks and comments only separate them.
-/
namespace SqliteReader.Sql

inductive Token
  /-- A name, and the keyword that it is when it stands without quotes. -/
  | word (ident : Ident) (keyword : Option String)
  /-- A number as it is written, and whether the letter `L` follows it. -/
  | number (text : String) (long : Bool)
  /-- Text in single quotes. -/
  | text (value : String)
  /-- Text in single quotes behind the letter `N`. -/
  | national (value : String)
  /-- A byte string in hexadecimal. -/
  | hex (value : String)
  /-- Text in single quotes behind the letter `E`, which has no place in this dialect. -/
  | escaped (value : String)
  | placeholder (text : String)
  | sign (text : String)
  /-- A character that begins no token. -/
  | unknown (c : Char)
  deriving Repr, DecidableEq

namespace Token

/-- The word that `value` is when it stands without quotes. -/
def ofWord (value : String) : Token := word ⟨value, none⟩ (Keyword.ofWord? value)

/-- Whether the token is the given keyword. -/
def isKeyword (token : Token) (keyword : String) : Bool :=
  match token with
  | word _ found => found == some keyword
  | _ => false

/-! ## Reading tokens -/

/-- Whether a name without quotes can begin with `c`: beyond ASCII, with every character up to
`FFFF`. -/
def isNameStart (c : Char) : Bool :=
  c.isAlpha || c == '_' || (0x7F ≤ c.toNat && c.toNat ≤ 0xFFFF)

def isNamePart (c : Char) : Bool := isNameStart c || c.isDigit

def isHexDigit (c : Char) : Bool := c.isDigit || ('a' ≤ c && c ≤ 'f') || ('A' ≤ c && c ≤ 'F')

/-- The text before the next `close`, and what stands behind it. Inside the text a `close` is written
twice. -/
def untilClose (close : Char) : List Char → Option (List Char × List Char)
  | [] => none
  | c :: rest =>
    if c ≠ close then (untilClose close rest).map fun (body, rest) => (c :: body, rest)
    else match rest with
      | [] => some ([], [])
      | d :: further =>
        if d = close then (untilClose close further).map fun (body, rest) => (c :: body, rest)
        else some ([], rest)

/-- The quoted text at the start of `cs`, whose opening quote has been read, as a token. -/
def quoted (close : Char) (token : String → Token) (cs : List Char) :
    Except Fault (Option Token × List Char) :=
  match untilClose close cs with
  | some (body, rest) => .ok (some (token (String.ofList body)), rest)
  | none => .error .unterminated

/-- What stands behind the comment at the start of `cs`, whose opening has been read. -/
def afterComment : List Char → Option (List Char)
  | '*' :: '/' :: rest => some rest
  | _ :: rest => afterComment rest
  | [] => none

/-- The exponent at the start of `cs`, empty when there is none. -/
def exponent (cs : List Char) : List Char :=
  match cs with
  | e :: rest =>
    if e = 'e' ∨ e = 'E' then
      let sign := rest.take 1 |>.filter fun c => c == '+' || c == '-'
      let digits := (rest.drop sign.length).takeWhile Char.isDigit
      if digits.isEmpty then [] else e :: sign ++ digits
    else []
  | [] => []

/-- The number at the start of `cs`, which begins with a digit or a point, or a lone point. -/
def numeral (cs : List Char) : Token × List Char :=
  let whole := cs.takeWhile Char.isDigit
  let rest := cs.drop whole.length
  if whole = ['0'] ∧ rest.head? = some 'x' then
    let digits := rest.tail.takeWhile isHexDigit
    (hex (String.ofList digits), rest.drop (digits.length + 1))
  else
    let point := if rest.head? = some '.' then ['.'] else []
    let fraction := (rest.drop point.length).takeWhile Char.isDigit
    let mantissa := whole ++ point ++ fraction
    let rest := cs.drop mantissa.length
    if mantissa = ['.'] then (sign ".", rest)
    else
      let exponent := exponent rest
      let rest := rest.drop exponent.length
      let long := rest.head? == some 'L'
      (number (String.ofList (mantissa ++ exponent)) long, if long then rest.tail else rest)

/-- The signs of more than one character, the longer ones first. -/
def longSigns : List String := [
  "!~~*", "->>", "!~~", "!~*", "~~*", "<=>", "#>>", "||/",
  "->", "|/", "||", "=>", "==", "!=", "!!", "!~", "<=", "<>", "<<", "<@", ">=", ">>", "::", ":=",
  "&&", "^@", "~~", "~*", "#>", "#-", "@>", "@?", "@@"]

/-- The signs of one character. -/
def shortSigns : List Char := [
  '(', ')', ',', '+', '-', '*', '/', '%', '=', '<', '>', '!', '|', '&', '^', '~', '#', '@', ':', ';',
  '\\', ']', '{', '}']

/-- The sign at the start of `cs`, which begins with `c`. Inequality has two spellings. -/
def signAt (c : Char) (cs : List Char) : Token × List Char :=
  match longSigns.find? fun spelling => spelling.toList.isPrefixOf cs with
  | some spelling =>
    (sign (if spelling = "!=" then "<>" else spelling), cs.drop spelling.length)
  | none => (if shortSigns.contains c then sign c.toString else unknown c, cs.tail)

/-- The first token of `cs` and what stands behind it; no token for a blank or a comment. -/
def next (cs : List Char) : Except Fault (Option Token × List Char) :=
  match cs with
  | [] => .ok (none, [])
  | '-' :: '-' :: rest => .ok (none, rest.dropWhile (· ≠ '\n'))
  | '/' :: '*' :: rest =>
    match afterComment rest with
    | some rest => .ok (none, rest)
    | none => .error .unterminated
  | c :: '\'' :: rest =>
    if c = 'n' ∨ c = 'N' then quoted '\'' national rest
    else if c = 'x' ∨ c = 'X' then quoted '\'' hex rest
    else if c = 'e' ∨ c = 'E' then quoted '\'' escaped rest
    else plain c ('\'' :: rest)
  | c :: rest => plain c rest
where
  /-- The first token of `c :: rest`, which is no comment and has no letter before a quote. -/
  plain (c : Char) (rest : List Char) : Except Fault (Option Token × List Char) :=
    let name (style : QuoteStyle) (value : String) : Token := word ⟨value, some style⟩ none
    if isNameStart c then
      let part := rest.takeWhile isNamePart
      .ok (some (ofWord (String.ofList (c :: part))), rest.drop part.length)
    else if c.isDigit || c == '.' then
      let (token, rest) := numeral (c :: rest)
      .ok (some token, rest)
    else if Text.isBlank c then .ok (none, rest)
    else if c = '\'' then quoted '\'' text rest
    else if c = '"' then quoted '"' (name .double) rest
    else if c = Char.ofNat 0x60 then quoted c (name .back) rest
    else if c = '[' then quoted ']' (name .bracket) rest
    else if c = '?' then
      let digits := rest.takeWhile Char.isDigit
      .ok (some (placeholder (String.ofList (c :: digits))), rest.drop digits.length)
    else if c = '$' then
      let part := rest.takeWhile fun c => c.isAlphanum || c == '_' || c == '$' || 0x80 ≤ c.toNat
      .ok (some (placeholder (String.ofList (c :: part))), rest.drop part.length)
    else
      let (token, rest) := signAt c (c :: rest)
      .ok (some token, rest)

/-- The tokens of `cs`. Each step takes a character at least, so `steps` need not be greater than the
length of `cs`. -/
def scan : (steps : Nat) → (cs : List Char) → Except Fault (List Token)
  | _, [] => .ok []
  | 0, _ => .ok []
  | steps + 1, cs => do
    let (token, rest) ← next cs
    let tokens ← scan steps rest
    return token.toList ++ tokens

/-- The tokens of a text. -/
def ofText (text : String) : Except Fault (List Token) := scan text.length text.toList

end Token
end SqliteReader.Sql
