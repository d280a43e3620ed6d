import XanhTab.Netd.Address

/-!
# Scripts of nft

A fragment of the language of nft with the meaning of its scripts for one table.
A script is a transaction: if one of its statements cannot be read or executed
then the table stays as it is.  Every chain of the table is hooked to the
output, and its policy is to accept; a chain that asks for anything else is not
read.
-/

namespace XanhTab

inductive Verdict
  | accept
  | drop
  deriving DecidableEq, Repr

namespace Nft

/-! ## Packets and rules -/

/-- An outgoing packet.  One that belongs to no socket has no user, and only TCP
has the port. -/
structure Packet where
  skuid : Option Nat
  oifname : String
  daddr : IpAddr
  dport : Option Nat
  deriving DecidableEq, Repr

/-- The expressions of a rule.  A counter matches everything. -/
inductive Expr
  | skuid (uid : Nat)
  | daddr (address : IpAddr)
  | dport (port : Nat)
  | oifname (name : String)
  | counter
  | verdict (verdict : Verdict)
  deriving DecidableEq, Repr

def Expr.passes (packet : Packet) : Expr → Bool
  | skuid uid => packet.skuid = some uid
  | daddr address => packet.daddr = address
  | dport port => packet.dport = some port
  | oifname name => packet.oifname = name
  | counter | verdict _ => true

abbrev Rule := List Expr

/-- The verdict of a rule, if it gets that far. -/
def ruleVerdict (packet : Packet) : Rule → Option Verdict
  | [] => none
  | .verdict verdict :: _ => some verdict
  | expr :: rest => if expr.passes packet then ruleVerdict packet rest else none

/-- The first rule with a verdict decides. -/
def rulesVerdict (packet : Packet) : List Rule → Verdict
  | [] => .accept
  | rule :: rest => (ruleVerdict packet rule).getD (rulesVerdict packet rest)

structure Chain where
  name : String
  rules : List Rule := []
  deriving DecidableEq, Repr

/-- The chains of a table, or nothing if there is no such table. -/
abbrev Table := Option (List Chain)

/-- A packet gets out if every chain accepts it. -/
def verdict (packet : Packet) (table : Table) : Verdict :=
  if (table.getD []).any fun chain => rulesVerdict packet chain.rules = .drop then .drop
  else .accept

/-! ## Statements -/

structure TableName where
  family : String
  name : String
  deriving DecidableEq, Repr

inductive Statement
  | addTable (table : TableName)
  | flushTable (table : TableName)
  | addChain (table : TableName) (chain : String)
  | addRule (table : TableName) (chain : String) (rule : Rule)
  deriving DecidableEq, Repr

def Statement.table : Statement → TableName
  | addTable table | flushTable table | addChain table _ | addRule table _ _ => table

/-- What a statement on the table does to its chains, if it can be executed. -/
def Statement.execute : Statement → Table → Option Table
  | .addTable _, table => some (some (table.getD []))
  | _, none => none
  | .flushTable _, some chains => some (some (chains.map fun chain => { chain with rules := [] }))
  | .addChain _ name, some chains =>
      if chains.any (·.name = name) then some (some chains)
      else some (some (chains ++ [{ name }]))
  | .addRule _ name rule, some chains =>
      if chains.any (·.name = name) then
        some (some (chains.map fun chain =>
          if chain.name = name then { chain with rules := chain.rules ++ [rule] } else chain))
      else none

/-! ## Reading -/

def readNumber (word : String) : Option Nat :=
  Numeral.read 10 word.toList

/-- An address of the family that a keyword names. -/
def readAddress (family word : String) : Option IpAddr :=
  if family = "ip" then (IpAddr.readV4 word.toList).map fun n => .v4 (BitVec.ofNat 32 n)
  else if family = "ip6" then (IpAddr.readV6 word.toList).map fun n => .v6 (BitVec.ofNat 128 n)
  else none

/-- A name between quotation marks. -/
def readQuoted (word : String) : Option String :=
  match word.toList with
  | '"' :: rest => if rest.getLast? = some '"' then some (String.ofList rest.dropLast) else none
  | _ => none

/-- A keyword with two further words. -/
def readMatch (first second third : String) : Option Expr :=
  if first = "meta" ∧ second = "skuid" then (readNumber third).map .skuid
  else if first = "tcp" ∧ second = "dport" then (readNumber third).map .dport
  else if second = "daddr" then (readAddress first third).map .daddr
  else none

def readRule : List String → Option Rule
  | [] => some []
  | "counter" :: rest => (readRule rest).map (.counter :: ·)
  | "accept" :: rest => (readRule rest).map (.verdict .accept :: ·)
  | "drop" :: rest => (readRule rest).map (.verdict .drop :: ·)
  | "oifname" :: name :: rest => (readQuoted name).bind fun name =>
      (readRule rest).map (.oifname name :: ·)
  | first :: second :: third :: rest => (readMatch first second third).bind fun expr =>
      (readRule rest).map (expr :: ·)
  | _ => none

/-- The words that a chain must be declared with. -/
def chainWords : List String :=
  ["\x7b", "type", "filter", "hook", "output", "priority", "filter;", "policy", "accept;", "\x7d"]

def readStatement : List String → Option Statement
  | "add" :: "table" :: family :: name :: [] => some (.addTable ⟨family, name⟩)
  | "flush" :: "table" :: family :: name :: [] => some (.flushTable ⟨family, name⟩)
  | "add" :: "chain" :: family :: name :: chain :: rest =>
      if rest = chainWords then some (.addChain ⟨family, name⟩ chain) else none
  | "add" :: "rule" :: family :: name :: chain :: rest =>
      (readRule rest).map (.addRule ⟨family, name⟩ chain)
  | _ => none

def words (line : List Char) : List String :=
  (line.splitOn ' ').map String.ofList

/-- The lines of a script, without the empty ones. -/
def lines (script : String) : List (List Char) :=
  (script.toList.splitOn '\n').filter (· ≠ [])

def readScript (script : String) : Option (List Statement) :=
  (lines script).mapM fun line => readStatement (words line)

/-- Execute a statement if it is about the table. -/
def executeOn (name : TableName) (table : Table) (statement : Statement) : Option Table :=
  if statement.table = name then statement.execute table else none

/-- Commit a script that is about the table only. -/
def commit (name : TableName) (script : String) (table : Table) : Option Table :=
  (readScript script).bind fun statements => statements.foldlM (executeOn name) table

/-! ## What is read -/

theorem words_append (front back : List Char) :
    words (front ++ ' ' :: back) = words front ++ words back := by
  unfold words
  rw [List.splitOn_append_cons_self, List.map_append]

theorem words_single {word : List Char} (plain : ' ' ∉ word) :
    words word = [String.ofList word] := by
  unfold words
  rw [List.splitOn_eq_singleton plain]
  rfl

theorem words_literal {word : String} (plain : ' ' ∉ word.toList) : words word.toList = [word] := by
  rw [words_single plain, String.ofList_toList]

theorem words_cons {word : String} (plain : ' ' ∉ word.toList) (rest : List Char) :
    words (word.toList ++ ' ' :: rest) = word :: words rest := by
  rw [words_append, words_literal plain, List.singleton_append]

/-- The lines of a script that is made up of lines. -/
theorem lines_join {texts : List String} (plain : ∀ text ∈ texts, '\n' ∉ text.toList ∧ text ≠ "") :
    lines (String.join (texts.map (· ++ "\n"))) = texts.map String.toList := by
  induction texts with
  | nil => rfl
  | cons text rest ih =>
      rcases plain text List.mem_cons_self with ⟨single, present⟩
      have others := ih fun later member => plain later (List.mem_cons_of_mem text member)
      unfold lines at others ⊢
      have nonempty : text.toList ≠ [] := by
        intro absent
        exact present (String.toList_injective absent)
      rw [List.map_cons, String.join_cons, String.toList_append, String.toList_append,
        List.append_assoc, List.map_cons]
      have newline : "\n".toList = ['\n'] := String.toList_ofList
      rw [newline, List.singleton_append, List.splitOn_append_cons_self_of_not_mem single,
        List.filter_cons, if_pos (by simpa using nonempty), others]

theorem readNumber_toDigits (n : Nat) :
    readNumber (String.ofList (Nat.toDigits 10 n)) = some n := by
  unfold readNumber
  rw [String.toList_ofList]
  exact Numeral.read_toDigits (by decide) (by decide) n

theorem readAddress_v4 (bits : BitVec 32) :
    readAddress "ip" (String.ofList (IpAddr.displayV4 bits)) = some (.v4 bits) := by
  simp [readAddress, IpAddr.readV4_displayV4]

theorem readAddress_v6 (bits : BitVec 128) :
    readAddress "ip6" (String.ofList (IpAddr.displayV6 bits)) = some (.v6 bits) := by
  simp [readAddress, IpAddr.readV6_displayV6]

/-! ## What is executed -/

/-- One chain has the rules and every other one has none. -/
structure Holding (name : String) (rules : List Rule) (chains : List Chain) : Prop where
  present : ∃ chain ∈ chains, chain.name = name
  rules : ∀ chain ∈ chains, chain.rules = if chain.name = name then rules else []

namespace Holding

variable {table : TableName} {name : String} {rules : List Rule} {chains : List Chain}

/-- The chain is there after the table has been flushed, whatever it contained. -/
theorem flushed (table : TableName) (name : String) (chains : List Chain) :
    ∃ after, executeOn table (some chains) (.flushTable table) = some (some after) ∧
      ∃ declared, executeOn table (some after) (.addChain table name) = some (some declared) ∧
        Holding name [] declared := by
  refine ⟨_, if_pos rfl, ?_⟩
  have empty : ∀ chain ∈ chains.map fun chain => { chain with rules := [] },
      chain.rules = if chain.name = name then [] else [] := by
    intro chain member
    rcases List.mem_map.mp member with ⟨old, _, rfl⟩
    rw [ite_self]
  simp only [executeOn, Statement.table, if_true, Statement.execute]
  by_cases known : ((chains.map fun chain => { chain with rules := [] }).any
      fun chain => chain.name = name) = true
  · rw [if_pos known]
    refine ⟨_, rfl, ?_, empty⟩
    simpa using known
  · rw [if_neg known]
    refine ⟨_, rfl, ?_, ?_⟩
    · exact ⟨{ name }, List.mem_append_right _ (List.mem_singleton_self _), rfl⟩
    · intro chain member
      rcases List.mem_append.mp member with old | new
      · exact empty chain old
      · rw [List.mem_singleton.mp new, ite_self]

theorem addRule (holding : Holding name rules chains) (table : TableName) (rule : Rule) :
    ∃ after, executeOn table (some chains) (.addRule table name rule) = some (some after) ∧
      Holding name (rules ++ [rule]) after := by
  have known : (chains.any fun chain => chain.name = name) = true := by
    simpa using holding.present
  simp only [executeOn, Statement.table, if_true, Statement.execute]
  rw [if_pos known]
  refine ⟨_, rfl, ?_, ?_⟩
  · rcases holding.present with ⟨chain, member, same⟩
    refine ⟨_, List.mem_map_of_mem member, ?_⟩
    rw [if_pos same]
    exact same
  · intro chain member
    rcases List.mem_map.mp member with ⟨old, earlier, rfl⟩
    have before := holding.rules old earlier
    by_cases same : old.name = name
    · rw [if_pos same] at before
      simp [same, before]
    · rw [if_neg same] at before
      simp [same, before]

theorem addRules (holding : Holding name rules chains) (table : TableName) (more : List Rule) :
    ∃ after, (more.map (Statement.addRule table name)).foldlM (executeOn table) (some chains) =
        some (some after) ∧ Holding name (rules ++ more) after := by
  induction more generalizing rules chains with
  | nil =>
      refine ⟨chains, rfl, ?_⟩
      rwa [List.append_nil]
  | cons rule rest ih =>
      rcases holding.addRule table rule with ⟨middle, executed, extended⟩
      rcases ih extended with ⟨after, remaining, final⟩
      refine ⟨after, ?_, ?_⟩
      · rw [List.map_cons, List.foldlM_cons, executed]
        exact remaining
      · rwa [List.append_assoc] at final

/-- The rules alone decide about a packet. -/
theorem verdict (holding : Holding name rules chains) (packet : Packet) :
    Nft.verdict packet (some chains) = rulesVerdict packet rules := by
  rcases holding.present with ⟨chain, member, same⟩
  have decides := holding.rules chain member
  rw [if_pos same] at decides
  unfold Nft.verdict
  cases decided : rulesVerdict packet rules with
  | drop =>
      rw [if_pos]
      simp only [Option.getD_some, List.any_eq_true, decide_eq_true_eq]
      exact ⟨chain, member, by rw [decides, decided]⟩
  | accept =>
      rw [if_neg]
      simp only [Option.getD_some, List.any_eq_true, decide_eq_true_eq]
      rintro ⟨other, present, dropped⟩
      rw [holding.rules other present] at dropped
      split at dropped
      · rw [decided] at dropped
        cases dropped
      · cases dropped

end Holding

/-- A script that fills a chain, whatever the table contained before. -/
theorem commit_of_read {table : TableName} {name script : String} {rules : List Rule}
    (read : readScript script = some (.flushTable table :: .addChain table name ::
      rules.map (.addRule table name))) (chains : List Chain) :
    ∃ after, commit table script (some chains) = some (some after) ∧ Holding name rules after := by
  rcases Holding.flushed table name chains with ⟨flushed, first, declared, second, holding⟩
  rcases holding.addRules table rules with ⟨after, rest, final⟩
  refine ⟨after, ?_, final⟩
  unfold commit
  rw [read, Option.bind_some, List.foldlM_cons, first]
  show (executeOn table (some flushed) (.addChain table name)).bind _ = _
  rw [second]
  exact rest

end Nft

end XanhTab
