/-!
# Tokens

The kinds of token of the Monkey language, the text that names each kind (the spelling used
in the parser's messages), the keyword table, and the binding strength of the kinds that
continue an expression.
-/

namespace Monkey

/-- The kinds of token. The words `and` and `or` are the keywords spelled `&&` and `||`. -/
inductive TokenKind where
  | illegal | eof | ident | int | string
  | assign | plus | minus | bang | asterisk | slash | modulus
  | lt | gt | lte | gte | eq | notEq | and | or
  | comma | semicolon | colon | dot
  | lparen | rparen | lbrace | rbrace | lbracket | rbracket
  | fnKw | letKw | trueKw | falseKw | ifKw | elseKw | returnKw
  | whileKw | breakKw | continueKw | forKw | classKw
  deriving DecidableEq, Repr, Inhabited

namespace TokenKind

/-- The name of a kind: a symbol for operators and punctuation, a capital word otherwise. -/
def name : TokenKind → String
  | illegal => "ILLEGAL" | eof => "EOF" | ident => "IDENT" | int => "INT"
  | string => "STRING"
  | assign => "=" | plus => "+" | minus => "-" | bang => "!" | asterisk => "*"
  | slash => "/" | modulus => "%"
  | lt => "<" | gt => ">" | lte => "<=" | gte => ">=" | eq => "==" | notEq => "!="
  | and => "&&" | or => "||"
  | comma => "," | semicolon => ";" | colon => ":" | dot => "."
  | lparen => "(" | rparen => ")" | lbrace => "\x7b" | rbrace => "\x7d"
  | lbracket => "[" | rbracket => "]"
  | fnKw => "FUNCTION" | letKw => "LET" | trueKw => "TRUE" | falseKw => "FALSE"
  | ifKw => "IF" | elseKw => "ELSE" | returnKw => "RETURN" | whileKw => "WHILE"
  | breakKw => "BREAK" | continueKw => "CONTINUE" | forKw => "FOR" | classKw => "CLASS"

/-- The kind of a word: a keyword's own kind, `ident` for any other word. -/
def ofWord : String → TokenKind
  | "fn" => fnKw | "let" => letKw | "true" => trueKw | "false" => falseKw
  | "if" => ifKw | "else" => elseKw | "return" => returnKw
  | "and" => and | "or" => or
  | "while" => whileKw | "break" => breakKw | "continue" => continueKw
  | "for" => forKw | "class" => classKw
  | _ => ident

/-- The kind of a character that is a token by itself whatever follows it. -/
def ofSymbol? : Char → Option TokenKind
  | ';' => some semicolon | '+' => some plus | '-' => some minus | '/' => some slash
  | '*' => some asterisk | '.' => some dot | '(' => some lparen | ')' => some rparen
  | '\x7b' => some lbrace | '\x7d' => some rbrace | ',' => some comma | '[' => some lbracket
  | ']' => some rbracket | ':' => some colon | '%' => some modulus
  | _ => none

/-- How strongly a kind binds the expression before it: `||` loosest, then `&&`, equality,
comparison, sums, products, the field dot, calls, and indexing tightest. Every other kind
ends an expression and has strength `0`. -/
def strength : TokenKind → Nat
  | or => 1 | and => 2
  | eq | notEq => 3
  | lt | gt | lte | gte => 4
  | plus | minus => 5
  | slash | asterisk | modulus => 6
  | dot => 8 | lparen => 9 | lbracket => 10
  | _ => 0

end TokenKind

/-- A token: its kind and the text it was read from. -/
structure Token where
  kind : TokenKind
  literal : String
  deriving DecidableEq, Repr, Inhabited

namespace Token

/-- The token that stands for the end of the input. -/
def eof : Token := ⟨.eof, ""⟩

end Token

end Monkey
