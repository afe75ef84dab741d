import PacketFilter.Expression.Token
import PacketFilter.Filter.Basic

/-
  Filter expressions.

  An expression is a conjunction of terms: a protocol, an address on one side
  (`src` or `dst`, with or without `host`), or a port on one side. `terms` reads
  tokens one at a time and refuses the first that does not fit, so of a token
  that cannot be read and one that does not fit the earlier counts. `parse` turns
  the terms into a filter, each field set once.
-/

namespace PacketFilter.Expression

open Text

inductive Term where
  | protocol (p : Protocol)
  | address (side : Side) (text : String)
  | port (side : Side) (n : Int)
  deriving DecidableEq, Repr

def Term.field : Term → FilterField
  | protocol _ => .protocol
  | address side _ => .address side
  | port side _ => .port side

inductive ExpressionError where
  | empty
  | scan (cause : ScanError)
  | unexpectedToken (text : String)
  | unexpectedEnd
  | repeated (field : FilterField)
  deriving DecidableEq, Repr

def ExpressionError.message : ExpressionError → String
  | empty => "Empty filter expression"
  | scan (.illegalCharacter c position) =>
    "Illegal character '" ++ c.toString ++ "' at " ++ decimalNat position
  | scan (.unsupportedKeyword word) => "Unsupported keyword '" ++ word ++ "'"
  | scan (.numeral cause) => cause.message
  | unexpectedToken text => "Syntax error at '" ++ text ++ "'"
  | unexpectedEnd => "Unexpected end of expression"
  | repeated field => "'" ++ field.name ++ "' specified more than once"

def Keyword.protocol? : Keyword → Option Protocol
  | .tcp => some .tcp
  | .udp => some .udp
  | .icmp => some .icmp
  | _ => none

def Keyword.side? : Keyword → Option Side
  | .src => some .src
  | .dst => some .dst
  | _ => none

/-- What the reader of an expression expects next. -/
inductive Expecting where
  | term
  /-- What follows a side. -/
  | operand (side : Side)
  /-- The address after `host`. -/
  | host (side : Side)
  /-- The number after `port`. -/
  | port (side : Side)
  /-- Another term after `and`, or the end. -/
  | joint
  deriving DecidableEq, Repr

/-- What a token leads to: what is expected after it, and the term it completes.
There is nothing if the token does not fit. -/
def step : Expecting → Token → Option (Expecting × Option Term)
  | .term, .keyword k _ =>
    match k.protocol?, k.side? with
    | some p, _ => some (.joint, some (.protocol p))
    | none, some side => some (.operand side, none)
    | none, none => none
  | .operand side, .address text => some (.joint, some (.address side text))
  | .operand side, .keyword .host _ => some (.host side, none)
  | .operand side, .keyword .port _ => some (.port side, none)
  | .host side, .address text => some (.joint, some (.address side text))
  | .port side, .number n => some (.joint, some (.port side n))
  | .joint, .keyword .and _ => some (.term, none)
  | _, _ => none

/-- The terms of a sequence of tokens, given what is expected first and what
stopped the reading of tokens at its end. -/
def termsFrom (stop : Option ScanError) : Expecting → List Token → Except ExpressionError (List Term)
  | expecting, [] =>
    match stop with
    | some e => .error (.scan e)
    | none => if expecting = .joint then .ok [] else .error .unexpectedEnd
  | expecting, token :: rest =>
    match step expecting token with
    | none => .error (.unexpectedToken token.text)
    | some (next, term?) => (termsFrom stop next rest).map (term?.toList ++ ·)

def terms (text : String) : Except ExpressionError (List Term) :=
  if (trim text.toList).isEmpty then .error .empty
  else
    let scanned := scan text
    termsFrom scanned.stop .term scanned.tokens

def Term.set (t : Term) (f : Filter) : Filter :=
  match t with
  | protocol p => { f with protocol := some (.str p.name) }
  | address .src text => { f with srcIp := some (.str text) }
  | address .dst text => { f with dstIp := some (.str text) }
  | port .src n => { f with srcPort := some (.int n) }
  | port .dst n => { f with dstPort := some (.int n) }

/-- The filter of a list of terms, after those that set the fields `seen`. -/
def filterFrom (seen : List FilterField) (f : Filter) : List Term → Except ExpressionError Filter
  | [] => .ok f
  | t :: rest =>
    if seen.contains t.field then .error (.repeated t.field)
    else filterFrom (t.field :: seen) (t.set f) rest

def parse (text : String) : Except ExpressionError Filter := do
  filterFrom [] {} (← terms text)

end PacketFilter.Expression
