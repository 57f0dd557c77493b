import PartitionSize.Statement.Outline
import PartitionSize.Token

/-!
# The grammar of statements

`Grammar.Sentence ts o rest` says that the tokens `ts` begin with a statement whose outline is `o`
and go on with `rest`. The rules are those of

    statement := CREATE TABLE opt(IF NOT EXISTS) NAME "(" entry ("," entry)* ")" ";"
    entry     := PRIMARY KEY clause | opt(PRIMARY KEY) NAME type opt(PRIMARY KEY) opt(STATIC)
    type      := NAME | NAME "<" … ">"
    clause    := "(" (NAME | "(" NAME ("," NAME)* ")") ("," NAME)* ")"

where `opt` is as much of the phrase as is there (`Grammar.Optional`), and the second form of an
entry is for tokens that do not begin with all of `PRIMARY KEY`.
-/

namespace PartitionSize.Grammar

/-- Tokens that match the words of a phrase. -/
inductive Phrase : List String → List Token → Prop where
  | nil : Phrase [] []
  | cons {word words t ts} : Token.is t word = true → Phrase words ts → Phrase (word :: words) (t :: ts)

/-- As much of the phrase as stands in front of `rest` is taken; `whole` says whether all does. -/
inductive Optional (phrase : List String) : List Token → Bool → List Token → Prop where
  | all {ts rest} : Phrase phrase ts → Optional phrase (ts ++ rest) true rest
  | part {words word words' ts t rest} : phrase = words ++ word :: words' → Phrase words ts →
      Token.is t word = false → Optional phrase (ts ++ t :: rest) false (t :: rest)

theorem Optional.absent {word : String} {words : List String} {t : Token} {rest : List Token}
    (h : Token.is t word = false) : Optional (word :: words) (t :: rest) false (t :: rest) :=
  @Optional.part _ [] word words [] t rest rfl .nil h

/-- A name. -/
def Name (t : Token) : Prop := Token.isMark t = false

/-- Tokens that close `depth` brackets, the last bracket with the last token. -/
inductive Closing : Nat → List Token → Prop where
  | nil : Closing 0 []
  | less {depth ts} : Closing (depth + 2) ts → Closing (depth + 1) ("<" :: ts)
  | greater {depth ts} : Closing depth ts → Closing (depth + 1) (">" :: ts)
  | other {depth t ts} : t ≠ "<" → t ≠ ">" → Closing (depth + 1) ts → Closing (depth + 1) (t :: ts)

/-- A type and its text. -/
inductive TypeText : List Token → String → List Token → Prop where
  | plain {name t rest} : Name name → t ≠ "<" → TypeText (name :: t :: rest) name (t :: rest)
  | bracketed {name ts rest} : Name name → Closing 1 ts →
      TypeText (name :: "<" :: ts ++ rest) (String.join (name :: "<" :: ts)) rest

/-- Names, each after a comma, as many as there are. -/
inductive MoreNames : List Token → List String → List Token → Prop where
  | nil {t rest} : t ≠ "," → MoreNames (t :: rest) [] (t :: rest)
  | cons {name ts names rest} : Name name → MoreNames ts names rest →
      MoreNames ("," :: name :: ts) (name :: names) rest

/-- The partition part of a clause. -/
inductive Partition : List Token → List String → List Token → Prop where
  | one {name rest} : Name name → Partition (name :: rest) [name] rest
  | several {name ts names rest} : Name name → MoreNames ts names (")" :: rest) →
      Partition ("(" :: name :: ts) (name :: names) rest

/-- A primary key clause after its keywords. -/
inductive Clause : List Token → Entry → List Token → Prop where
  | mk {ts partition ts' clustering rest} : Partition ts partition ts' →
      MoreNames ts' clustering (")" :: rest) →
      Clause ("(" :: ts) (.key partition clustering) rest

/-- One entry. -/
inductive EntryText : List Token → Entry → List Token → Prop where
  | key {ts ts' e rest} : Optional ["PRIMARY", "KEY"] ts true ts' → Clause ts' e rest →
      EntryText ts e rest
  | column {ts name ts₁ dataType ts₂ inlineKey ts₃ isStatic rest} :
      Optional ["PRIMARY", "KEY"] ts false (name :: ts₁) → Name name → TypeText ts₁ dataType ts₂ →
      Optional ["PRIMARY", "KEY"] ts₂ inlineKey ts₃ → Optional ["STATIC"] ts₃ isStatic rest →
      EntryText ts (.column name dataType inlineKey isStatic) rest

/-- Entries separated by commas, as many as there are. -/
inductive Entries : List Token → List Entry → List Token → Prop where
  | last {ts e t rest} : EntryText ts e (t :: rest) → t ≠ "," → Entries ts [e] (t :: rest)
  | cons {ts e ts' entries rest} : EntryText ts e ("," :: ts') → Entries ts' entries rest →
      Entries ts (e :: entries) rest

/-- A statement and the tokens after it. -/
inductive Sentence : List Token → Outline → List Token → Prop where
  | mk {create table ts whole tableName ts' entries rest} :
      Phrase ["CREATE", "TABLE"] [create, table] →
      Optional ["IF", "NOT", "EXISTS"] ts whole (tableName :: "(" :: ts') → Name tableName →
      Entries ts' entries (")" :: ";" :: rest) →
      Sentence (create :: table :: ts) { tableName, entries } rest

end PartitionSize.Grammar
