import XanhTab.Netd.Handler

/-!
# The scripts of the network helper

The text of the nft transactions, and what it means when nft reads it.  The
family of an endpoint is chosen by the text of its address, and a script says
nothing about what the table contained before.
-/

namespace XanhTab

open Program Transition

/-! ## The text -/

namespace Netd

/-- The first two lines of every script. -/
def scriptHead : String :=
  "flush table inet xanhtab\nadd chain inet xanhtab browser_output \x7b type filter hook output priority filter; policy accept; \x7d\n"

/-- `add_drop`. -/
def addDrop (script : String) (uid : Nat) : String :=
  script ++ s!"add rule inet xanhtab browser_output meta skuid {uid} counter drop\n"

/-- The keyword for the family of an address, by its text. -/
def addressFamily (address : String) : String :=
  if contains address ":" then "ip6" else "ip"

/-- `add_proxy_guard`. -/
def addProxyGuard (script : String) (uid : Nat) (address : String) (port : Nat) : String :=
  let family := addressFamily address
  addDrop (script ++ s!"add rule inet xanhtab browser_output meta skuid {uid} {family} daddr {address} tcp dport {port} accept\n") uid

/-- The script of `nft_transaction`, which expects an endpoint for a proxy mode. -/
def nftTransactionScript (config : NetworkConfig) (mode : Option EgressMode)
    (proxyEndpoint : Option SocketAddr) : Option String :=
  let uid := config.browserUid
  match mode with
  | none => some (addDrop scriptHead uid)
  | some .direct => some scriptHead
  | some .tor | some .warp | some .proxy => proxyEndpoint.map fun endpoint =>
      addProxyGuard scriptHead uid endpoint.ip.display endpoint.port
  | some .wireGuard =>
      some (addDrop (scriptHead ++ s!"add rule inet xanhtab browser_output meta skuid {uid} oifname \"{wireguardInterface}\" accept\n") uid)

/-- The table that the scripts are about. -/
def tableName : Nft.TableName :=
  ⟨"inet", "xanhtab"⟩

def chainName : String := "browser_output"

end Netd

def NftRule.text : NftRule → String
  | acceptEndpoint uid endpoint =>
      let address := endpoint.ip.display
      let family := Netd.addressFamily address
      let port := endpoint.port
      s!"add rule inet xanhtab browser_output meta skuid {uid} {family} daddr {address} tcp dport {port} accept"
  | acceptInterface uid interface =>
      s!"add rule inet xanhtab browser_output meta skuid {uid} oifname \"{interface}\" accept"
  | drop uid => s!"add rule inet xanhtab browser_output meta skuid {uid} counter drop"

/-- A line of a script without its end. -/
def NftStatement.text : NftStatement → String
  | flushTable => "flush table inet xanhtab"
  | addChain => "add chain inet xanhtab browser_output \x7b type filter hook output priority filter; policy accept; \x7d"
  | addRule rule => rule.text

/-- The text of some lines. -/
def joinLines (texts : List String) : String :=
  String.join (texts.map (· ++ "\n"))

/-- What nft is given to read, in its input or in its arguments. -/
def CommandSpec.script (spec : CommandSpec) : String :=
  match spec.stdin with
  | some statements => joinLines (statements.map NftStatement.text)
  | none => String.intercalate " " spec.args

/-- What a command does to the table, if it succeeds. -/
def CommandSpec.commit (spec : CommandSpec) (table : Nft.Table) : Option Nft.Table :=
  if spec.program = nftProgram then Nft.commit Netd.tableName spec.script table else some table

/-! ## The scripts of the plans -/

theorem joinLines_cons (text : String) (rest : List String) :
    joinLines (text :: rest) = text ++ "\n" ++ joinLines rest := by
  unfold joinLines
  rw [List.map_cons, String.join_cons]

theorem append_line (tail : String) {front last : String} (ending : last = tail ++ "\n") (script : String) :
    script ++ (front ++ last) = script ++ (front ++ tail ++ "\n") := by
  rw [ending]
  simp only [String.append_assoc]

theorem addDrop_eq (script : String) (uid : Nat) :
    Netd.addDrop script uid = script ++ joinLines [(NftRule.drop uid).text] := by
  rw [joinLines_cons]
  unfold Netd.addDrop NftRule.text joinLines
  rw [List.map_nil, String.join_nil, String.append_empty]
  exact append_line (toString " counter drop") (String.toList_injective (by simp [toString])) script

theorem addProxyGuard_eq (script : String) (uid : Nat) (endpoint : SocketAddr) :
    Netd.addProxyGuard script uid endpoint.ip.display endpoint.port =
      script ++ joinLines ((proxyGuard uid endpoint).map NftRule.text) := by
  have accepts : Netd.addProxyGuard script uid endpoint.ip.display endpoint.port =
      Netd.addDrop (script ++ ((NftRule.acceptEndpoint uid endpoint).text ++ "\n")) uid := by
    unfold Netd.addProxyGuard NftRule.text
    dsimp only
    rw [append_line (toString " accept") (String.toList_injective (by simp [toString])) script]
  rw [accepts, addDrop_eq, proxyGuard, List.map_cons, List.map_cons, List.map_nil,
    joinLines_cons (NftRule.acceptEndpoint uid endpoint).text, String.append_assoc]

/-- The lines that a script begins with. -/
theorem scriptHead_eq (rules : List NftRule) :
    Netd.scriptHead ++ joinLines (rules.map NftRule.text) =
      joinLines ((NftStatement.flushTable :: .addChain :: rules.map .addRule).map
        NftStatement.text) := by
  have head : Netd.scriptHead =
      NftStatement.flushTable.text ++ "\n" ++ (NftStatement.addChain.text ++ "\n") := by
    apply String.toList_injective
    simp [Netd.scriptHead, NftStatement.text]
  have same : NftStatement.text ∘ NftStatement.addRule = NftRule.text := rfl
  rw [List.map_cons, List.map_cons, List.map_map, same, joinLines_cons, joinLines_cons, head,
    String.append_assoc]

/-- The scripts of the plans are those of the source. -/
theorem nftTransaction_script {config : NetworkConfig} {mode : Option EgressMode}
    {proxyEndpoint : Option SocketAddr}
    (needed : ∀ used, mode = some used → used.usesProxy = true → proxyEndpoint ≠ none) :
    Netd.nftTransactionScript config mode proxyEndpoint =
      some (nftTransaction config mode proxyEndpoint).script := by
  have script : (nftTransaction config mode proxyEndpoint).script =
      Netd.scriptHead ++ joinLines ((policyRules config mode proxyEndpoint).map NftRule.text) := by
    rw [scriptHead_eq]
    rfl
  rw [script]
  cases mode with
  | none => exact congrArg some (addDrop_eq Netd.scriptHead config.browserUid)
  | some mode =>
      cases mode with
      | direct => exact congrArg some (String.append_empty).symm
      | tor | warp | proxy =>
          cases proxyEndpoint with
          | none => exact (needed _ rfl rfl rfl).elim
          | some endpoint =>
              exact congrArg some (addProxyGuard_eq Netd.scriptHead config.browserUid endpoint)
      | wireGuard =>
          unfold Netd.nftTransactionScript
          dsimp only
          rw [append_line (toString "\" accept") (String.toList_injective (by simp [toString]))
            Netd.scriptHead, addDrop_eq, String.append_assoc, ← joinLines_cons]
          rfl

example : Netd.nftTransactionScript {} (some .tor) (some ⟨.v6 1, 9050⟩) =
    some "flush table inet xanhtab
add chain inet xanhtab browser_output \x7b type filter hook output priority filter; policy accept; \x7d
add rule inet xanhtab browser_output meta skuid 988 ip6 daddr ::1 tcp dport 9050 accept
add rule inet xanhtab browser_output meta skuid 988 counter drop
" := by
  decide +kernel

/-! ## How the scripts are read -/

/-- What a rule says in the language of nft. -/
def NftRule.expressions : NftRule → Nft.Rule
  | acceptEndpoint uid endpoint =>
      [.skuid uid, .daddr endpoint.ip, .dport endpoint.port, .verdict .accept]
  | acceptInterface uid interface => [.skuid uid, .oifname interface, .verdict .accept]
  | drop uid => [.skuid uid, .counter, .verdict .drop]

namespace Netd

theorem contains_colon (text : List Char) :
    contains (String.ofList text) ":" = decide (':' ∈ text) := by
  have colon : ":".toList = [':'] := String.toList_ofList
  unfold contains
  rw [String.toList_ofList, colon]
  induction text with
  | nil => rfl
  | cons c rest ih =>
      rw [List.tails_cons, List.any_cons, ih]
      by_cases same : c = ':'
      · simp [same]
      · have other : ¬ ':' = c := fun equal => same equal.symm
        simp [other, List.isPrefixOf]

theorem addressFamily_v4 (bits : BitVec 32) : addressFamily (IpAddr.v4 bits).display = "ip" := by
  unfold addressFamily IpAddr.display
  rw [contains_colon, if_neg]
  simpa using IpAddr.colon_not_mem_displayV4 bits

theorem addressFamily_v6 (bits : BitVec 128) :
    addressFamily (IpAddr.v6 bits).display = "ip6" := by
  unfold addressFamily IpAddr.display
  rw [contains_colon, if_pos]
  simpa using IpAddr.colon_mem_displayV6 bits

/-- The words of a rule up to the user. -/
def ruleWords (uid : Nat) : List String :=
  ["add", "rule", "inet", "xanhtab", "browser_output", "meta", "skuid",
    String.ofList (Nat.toDigits 10 uid)]

theorem toList_number (n : Nat) : (toString n).toList = Nat.toDigits 10 n := by
  rw [Nat.toString_eq_repr, Nat.toList_repr]

theorem words_number (n : Nat) :
    Nft.words (Nat.toDigits 10 n) = [String.ofList (Nat.toDigits 10 n)] :=
  Nft.words_single (Numeral.not_mem_toDigits (by decide) (by decide) n (by decide))

theorem words_rule (uid : Nat) (rest : List Char) :
    Nft.words ((toString "add rule inet xanhtab browser_output meta skuid ").toList ++
      ((toString uid).toList ++ ' ' :: rest)) = ruleWords uid ++ Nft.words rest := by
  have head : (toString "add rule inet xanhtab browser_output meta skuid ").toList =
      "add".toList ++ ' ' :: ("rule".toList ++ ' ' :: ("inet".toList ++ ' ' ::
        ("xanhtab".toList ++ ' ' :: ("browser_output".toList ++ ' ' :: ("meta".toList ++ ' ' ::
          ("skuid".toList ++ [' '])))))) := by
    simp [toString]
  rw [head, toList_number]
  simp only [List.append_assoc, List.cons_append, List.nil_append]
  simp (disch := simp) only [Nft.words_cons]
  rw [Nft.words_append, words_number]
  rfl

theorem words_drop (uid : Nat) :
    Nft.words (NftRule.drop uid).text.toList = ruleWords uid ++ ["counter", "drop"] := by
  have tail : (toString " counter drop").toList =
      ' ' :: ("counter".toList ++ ' ' :: "drop".toList) := by
    simp [toString]
  unfold NftRule.text
  rw [String.toList_append, String.toList_append, List.append_assoc, tail, words_rule]
  simp (disch := simp) only [Nft.words_cons, Nft.words_literal]

theorem words_interface (uid : Nat) :
    Nft.words (NftRule.acceptInterface uid wireguardInterface).text.toList =
      ruleWords uid ++ ["oifname", "\"wg0\"", "accept"] := by
  have middle : (toString " oifname \"").toList ++ ((toString wireguardInterface).toList ++
      (toString "\" accept").toList) =
        ' ' :: ("oifname".toList ++ ' ' :: ("\"wg0\"".toList ++ ' ' :: "accept".toList)) := by
    simp [toString, wireguardInterface]
  unfold NftRule.text
  rw [String.toList_append, String.toList_append, String.toList_append, String.toList_append,
    List.append_assoc, List.append_assoc, List.append_assoc, middle, words_rule]
  simp (disch := simp) only [Nft.words_cons, Nft.words_literal]

/-- The words of an endpoint, whose address is written without a blank. -/
theorem words_endpoint (uid : Nat) (endpoint : SocketAddr) {family : String} {address : List Char}
    (display : endpoint.ip.display = String.ofList address)
    (familyOf : addressFamily endpoint.ip.display = family)
    (familyPlain : ' ' ∉ family.toList) (plain : ' ' ∉ address) :
    Nft.words (NftRule.acceptEndpoint uid endpoint).text.toList = ruleWords uid ++
      [family, "daddr", String.ofList address, "tcp", "dport",
        String.ofList (Nat.toDigits 10 endpoint.port), "accept"] := by
  have blank : (toString " ").toList = [' '] := by simp [toString]
  have daddr : (toString " daddr ").toList = ' ' :: ("daddr".toList ++ [' ']) := by
    simp [toString]
  have dport : (toString " tcp dport ").toList =
      ' ' :: ("tcp".toList ++ ' ' :: ("dport".toList ++ [' '])) := by
    simp [toString]
  have accept : (toString " accept").toList = ' ' :: "accept".toList := by simp [toString]
  have text : (NftRule.acceptEndpoint uid endpoint).text.toList =
      (toString "add rule inet xanhtab browser_output meta skuid ").toList ++
        ((toString uid).toList ++ ' ' :: (family.toList ++ ' ' :: ("daddr".toList ++ ' ' ::
          (address ++ ' ' :: ("tcp".toList ++ ' ' :: ("dport".toList ++ ' ' ::
            (Nat.toDigits 10 endpoint.port ++ ' ' :: "accept".toList))))))) := by
    have addressText : (toString (String.ofList address)).toList = address :=
      String.toList_ofList
    have familyText : (toString family).toList = family.toList := rfl
    unfold NftRule.text
    dsimp only
    rw [familyOf, display]
    simp only [String.toList_append, blank, daddr, dport, accept, toList_number, addressText,
      familyText, List.append_assoc, List.cons_append, List.nil_append]
  rw [text, words_rule, Nft.words_cons familyPlain, Nft.words_cons (by simp),
    Nft.words_append, Nft.words_single plain, Nft.words_cons (by simp), Nft.words_cons (by simp),
    Nft.words_append, words_number, Nft.words_literal (by simp)]
  rfl

theorem readStatement_rule {uid : Nat} {rest : List String} {rule : Nft.Rule}
    (read : Nft.readRule rest = some rule) :
    Nft.readStatement (ruleWords uid ++ rest) =
      some (.addRule tableName chainName (.skuid uid :: rule)) := by
  have number := Nft.readNumber_toDigits uid
  simp [ruleWords, Nft.readStatement, Nft.readRule, Nft.readMatch, number, read, tableName,
    chainName]

theorem readRule_endpoint {family address : String} {ip : IpAddr}
    (keyword : family = "ip" ∨ family = "ip6") (read : Nft.readAddress family address = some ip)
    (port : Nat) :
    Nft.readRule [family, "daddr", address, "tcp", "dport",
        String.ofList (Nat.toDigits 10 port), "accept"] =
      some [.daddr ip, .dport port, .verdict .accept] := by
  have number := Nft.readNumber_toDigits port
  rcases keyword with rfl | rfl
  · simp [Nft.readRule, Nft.readMatch, read, number]
  · simp [Nft.readRule, Nft.readMatch, read, number]

/-- The rules of the policies. -/
def Written (rule : NftRule) : Prop :=
  ∀ uid interface, rule = .acceptInterface uid interface → interface = wireguardInterface

theorem readStatement_text {rule : NftRule} (written : Written rule) :
    Nft.readStatement (Nft.words rule.text.toList) =
      some (.addRule tableName chainName rule.expressions) := by
  cases rule with
  | drop uid =>
      rw [words_drop]
      exact readStatement_rule (by simp [Nft.readRule])
  | acceptInterface uid interface =>
      obtain rfl := written uid interface rfl
      have name : Nft.readQuoted "\"wg0\"" = some wireguardInterface := by
        simp [Nft.readQuoted, wireguardInterface]
      rw [words_interface]
      exact readStatement_rule (by simp [Nft.readRule, name])
  | acceptEndpoint uid endpoint =>
      rcases endpoint with ⟨bits | bits, port⟩
      · have display : (IpAddr.v4 bits).display = String.ofList (IpAddr.displayV4 bits) := rfl
        have plain : ' ' ∉ IpAddr.displayV4 bits :=
          IpAddr.not_mem_displayV4 (by decide) (by decide) bits
        have ipWords := words_endpoint uid ⟨.v4 bits, port⟩ display (addressFamily_v4 bits)
          (by simp) plain
        rw [ipWords]
        apply readStatement_rule
        exact readRule_endpoint (.inl rfl) (Nft.readAddress_v4 bits) port
      · have display : (IpAddr.v6 bits).display = String.ofList (IpAddr.displayV6 bits) := rfl
        have plain : ' ' ∉ IpAddr.displayV6 bits :=
          IpAddr.not_mem_displayV6 (by decide) (by decide) (by decide) bits
        have ip6Words := words_endpoint uid ⟨.v6 bits, port⟩ display (addressFamily_v6 bits)
          (by simp) plain
        rw [ip6Words]
        apply readStatement_rule
        exact readRule_endpoint (.inr rfl) (Nft.readAddress_v6 bits) port

/-! ## Whole scripts -/

theorem newline_not_mem_number (n : Nat) : '\n' ∉ (toString n).toList := by
  rw [toList_number]
  exact Numeral.not_mem_toDigits (by decide) (by decide) n (by decide)

theorem newline_not_mem_address (ip : IpAddr) : '\n' ∉ (toString ip.display).toList := by
  cases ip with
  | v4 bits =>
      have display : (toString (IpAddr.v4 bits).display).toList = IpAddr.displayV4 bits :=
        String.toList_ofList
      rw [display]
      exact IpAddr.not_mem_displayV4 (by decide) (by decide) bits
  | v6 bits =>
      have display : (toString (IpAddr.v6 bits).display).toList = IpAddr.displayV6 bits :=
        String.toList_ofList
      rw [display]
      exact IpAddr.not_mem_displayV6 (by decide) (by decide) (by decide) bits

theorem newline_not_mem_family (address : String) :
    '\n' ∉ (toString (addressFamily address)).toList := by
  unfold addressFamily
  split
  · simp [toString]
  · simp [toString]

/-- A rule is one line. -/
theorem newline_not_mem_text {rule : NftRule} (written : Written rule) :
    '\n' ∉ rule.text.toList := by
  have front : '\n' ∉ (toString "add rule inet xanhtab browser_output meta skuid ").toList := by
    simp [toString]
  cases rule with
  | drop uid =>
      have back : '\n' ∉ (toString " counter drop").toList := by simp [toString]
      unfold NftRule.text
      simp only [String.toList_append, List.mem_append, not_or]
      exact ⟨⟨front, newline_not_mem_number uid⟩, back⟩
  | acceptInterface uid interface =>
      obtain rfl := written uid interface rfl
      have middle : '\n' ∉ (toString " oifname \"").toList := by simp [toString]
      have name : '\n' ∉ (toString wireguardInterface).toList := by
        simp [toString, wireguardInterface]
      have back : '\n' ∉ (toString "\" accept").toList := by simp [toString]
      unfold NftRule.text
      simp only [String.toList_append, List.mem_append, not_or]
      exact ⟨⟨⟨⟨front, newline_not_mem_number uid⟩, middle⟩, name⟩, back⟩
  | acceptEndpoint uid endpoint =>
      have blank : '\n' ∉ (toString " ").toList := by simp [toString]
      have daddr : '\n' ∉ (toString " daddr ").toList := by simp [toString]
      have dport : '\n' ∉ (toString " tcp dport ").toList := by simp [toString]
      have back : '\n' ∉ (toString " accept").toList := by simp [toString]
      have family := newline_not_mem_family endpoint.ip.display
      have address := newline_not_mem_address endpoint.ip
      have port := newline_not_mem_number endpoint.port
      unfold NftRule.text
      simp only [String.toList_append, List.mem_append, not_or]
      exact ⟨⟨⟨⟨⟨⟨⟨⟨front, newline_not_mem_number uid⟩, blank⟩, family⟩, daddr⟩, address⟩,
        dport⟩, port⟩, back⟩

end Netd

/-- The statement that a line is read as. -/
def NftStatement.meaning : NftStatement → Nft.Statement
  | flushTable => .flushTable Netd.tableName
  | addChain => .addChain Netd.tableName Netd.chainName
  | addRule rule => .addRule Netd.tableName Netd.chainName rule.expressions

namespace Netd

theorem readStatement_meaning {statement : NftStatement}
    (written : ∀ rule, statement = .addRule rule → Written rule) :
    Nft.readStatement (Nft.words statement.text.toList) = some statement.meaning := by
  cases statement with
  | flushTable =>
      have text : NftStatement.flushTable.text.toList = "flush".toList ++ ' ' ::
          ("table".toList ++ ' ' :: ("inet".toList ++ ' ' :: "xanhtab".toList)) := by
        simp [NftStatement.text]
      rw [text]
      simp (disch := simp) only [Nft.words_cons, Nft.words_literal]
      rfl
  | addChain =>
      have text : NftStatement.addChain.text.toList = "add".toList ++ ' ' ::
          ("chain".toList ++ ' ' :: ("inet".toList ++ ' ' :: ("xanhtab".toList ++ ' ' ::
            ("browser_output".toList ++ ' ' :: ("\x7b".toList ++ ' ' :: ("type".toList ++ ' ' ::
              ("filter".toList ++ ' ' :: ("hook".toList ++ ' ' :: ("output".toList ++ ' ' ::
                ("priority".toList ++ ' ' :: ("filter;".toList ++ ' ' :: ("policy".toList ++ ' ' ::
                  ("accept;".toList ++ ' ' :: "\x7d".toList))))))))))))) := by
        simp [NftStatement.text]
      rw [text]
      simp (disch := simp) only [Nft.words_cons, Nft.words_literal]
      simp [Nft.readStatement, Nft.chainWords, NftStatement.meaning, tableName, chainName]
  | addRule rule => exact readStatement_text (written rule rfl)

theorem newline_not_mem_statement {statement : NftStatement}
    (written : ∀ rule, statement = .addRule rule → Written rule) :
    '\n' ∉ statement.text.toList := by
  cases statement with
  | flushTable => simp [NftStatement.text]
  | addChain => simp [NftStatement.text]
  | addRule rule => exact newline_not_mem_text (written rule rfl)

/-- A script is read as what its lines mean. -/
theorem readScript_joinLines (statements : List NftStatement)
    (written : ∀ rule, NftStatement.addRule rule ∈ statements → Written rule) :
    Nft.readScript (joinLines (statements.map NftStatement.text)) =
      some (statements.map NftStatement.meaning) := by
  have each : ∀ statement ∈ statements, ∀ rule, statement = .addRule rule → Written rule := by
    rintro _ member rule rfl
    exact written rule member
  have reads : ∀ statement ∈ statements,
      Nft.readStatement (Nft.words statement.text.toList) = some statement.meaning :=
    fun statement member => readStatement_meaning (each statement member)
  have plain : ∀ text ∈ statements.map NftStatement.text, '\n' ∉ text.toList ∧ text ≠ "" := by
    intro text member
    rcases List.mem_map.mp member with ⟨statement, listed, rfl⟩
    constructor
    · exact newline_not_mem_statement (each statement listed)
    · intro empty
      have read := reads statement listed
      rw [empty] at read
      have unread : Nft.readStatement (Nft.words "".toList) = none := by
        rw [Nft.words_literal (by simp)]
        rfl
      rw [unread] at read
      cases read
  unfold Nft.readScript joinLines
  rw [Nft.lines_join plain, List.map_map]
  clear each plain written
  induction statements with
  | nil => rfl
  | cons statement rest ih =>
      have first := reads statement List.mem_cons_self
      have others := ih fun later member => reads later (List.mem_cons_of_mem _ member)
      simp [List.mapM_cons, first, others]

theorem written_of_mem {config : NetworkConfig} {mode : Option EgressMode}
    {proxyEndpoint : Option SocketAddr} {rule : NftRule}
    (member : rule ∈ policyRules config mode proxyEndpoint) : Written rule := by
  rintro uid interface rfl
  cases mode with
  | none => simp [policyRules] at member
  | some mode =>
      cases mode with
      | direct => cases member
      | tor | warp | proxy => cases proxyEndpoint <;> simp [policyRules, proxyGuard] at member
      | wireGuard =>
          simp [policyRules] at member
          exact member.2

/-- How the transaction of a policy is read. -/
theorem readScript_transaction (config : NetworkConfig) (mode : Option EgressMode)
    (proxyEndpoint : Option SocketAddr) :
    Nft.readScript (nftTransaction config mode proxyEndpoint).script =
      some (.flushTable tableName :: .addChain tableName chainName ::
        ((policyRules config mode proxyEndpoint).map NftRule.expressions).map
          (.addRule tableName chainName)) := by
  have same : NftStatement.meaning ∘ NftStatement.addRule =
      Nft.Statement.addRule tableName chainName ∘ NftRule.expressions := rfl
  have read := readScript_joinLines
    (.flushTable :: .addChain :: (policyRules config mode proxyEndpoint).map .addRule) (by
      intro rule member
      simp only [List.mem_cons, List.mem_map, reduceCtorEq, false_or] at member
      rcases member with ⟨other, listed, equal⟩
      cases equal
      exact written_of_mem listed)
  refine read.trans ?_
  rw [List.map_cons, List.map_cons, List.map_map, List.map_map, same]
  rfl

end Netd

end XanhTab
