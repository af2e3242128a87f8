import CombatPlan.Program.Plain
import CombatPlan.Proofs.Opponent.Equality
import CombatPlan.Proofs.Opponent.PlainForm

/-!
# The plain form of programs

What is read as a program is valid (`valid_of_rule`), and a valid program is read back from its plain form
(`rule_plain_of_valid`). A node is read in two ways, but a plain form in one way only: a step has no target, and a branch
has no type.
-/

namespace CombatPlan

open Schema

/-! ## Steps -/

namespace Step

theorem rule_plain_eq (s : Step) : rule s.plain = ofKind s.kind s.name? := by
  cases s with
  | use tool name => cases tool <;> rfl
  | attempt tool name => cases tool <;> rfl
  | _ => rfl

theorem ofKind_of_valid {s : Step} (h : s.Valid) : ofKind s.kind s.name? = .valid s := by
  cases s with
  | use tool name => exact if_neg fun hempty => h (congrArg some hempty)
  | attempt tool name => exact if_neg fun hempty => h (congrArg some hempty)
  | _ => rfl

theorem valid_of_named {kind : Kind} {make : String → Step} {name : String} {s : Step}
    (hmake : (make name).name? = some name) (h : ofKind.named kind make name = .valid s) : s.Valid := by
  unfold ofKind.named at h
  by_cases hempty : name = ""
  · rw [if_pos hempty] at h
    cases h
  · rw [if_neg hempty] at h
    cases h
    unfold Valid
    rw [hmake]
    exact fun he => hempty (Option.some.inj he)

theorem valid_of_ofKind {kind : Kind} {name? : Option String} {s : Step} (h : ofKind kind name? = .valid s) :
    s.Valid := by
  cases kind with
  | use tool =>
    cases name? with
    | none => cases h
    | some name => exact valid_of_named rfl h
  | attempt tool =>
    cases name? with
    | none => cases h
    | some name => exact valid_of_named rfl h
  | _ =>
    cases name? with
    | none => cases h; exact nofun
    | some name => cases h

theorem ensures_rule : Step.rule.Ensures Valid := by
  refine Rule.ensures_model fun fields s h => ?_
  obtain ⟨p, -, hp⟩ := Checked.andThen_eq_valid.mp h
  exact valid_of_ofKind hp

end Step

/-! ## Nodes -/

namespace Node

def plain : Node → Datum
  | step s => s.plain
  | branch t body => .record [(.text "target", t.plain), (.text "body", body.plain)]

def Valid : Node → Prop
  | step s => s.Valid
  | branch t body => t.Valid ∧ body.Valid

theorem valid_cons {n : Node} {p : Program} : (n.cons p).Valid ↔ n.Valid ∧ p.Valid := by
  cases n with
  | step s => exact Iff.rfl
  | branch t body => exact and_assoc.symm

end Node

namespace Program

theorem node_eq (d : Datum) : node d = Node.choose (Step.rule d) (branchRule d) := by
  cases d <;> rfl

theorem node_eq_branch_iff {d : Datum} {t : Opponent} {body : Program} :
    node d = .valid (.branch t body) ↔ branchRule d = .valid (t, body) := by
  rw [node_eq]
  cases branchRule d <;> cases Step.rule d <;> simp [Node.choose, Prod.ext_iff]

theorem node_eq_step_iff {d : Datum} {s : Step} :
    node d = .valid (.step s) ↔ Step.rule d = .valid s ∧ ∀ b, branchRule d ≠ .valid b := by
  rw [node_eq]
  cases branchRule d <;> cases Step.rule d <;> simp [Node.choose]

theorem branchRule_eq_valid {fields : List (Scalar × Datum)} {t : Opponent} {p : Program} :
    branchRule (.record fields) = .valid (t, p) ↔
      required "target" Opponent.rule fields = .valid t ∧ body fields = .valid p := by
  constructor
  · intro h
    obtain ⟨_, _, hmk, hp, heq⟩ := Checked.seq_eq_valid.mp h
    obtain ⟨_, ht, rfl⟩ := Checked.map_eq_valid.mp hmk
    cases heq
    exact ⟨ht, Checked.under_eq_valid.mp hp⟩
  · rintro ⟨ht, hp⟩
    show Prod.mk <$> required "target" Opponent.rule fields <*> (body fields).under (.field "body") = _
    rw [ht, hp]
    rfl

theorem branchRule_plain_step (s : Step) (b : Opponent × Program) : branchRule s.plain ≠ .valid b := by
  intro h
  obtain ⟨ht, -⟩ := branchRule_eq_valid.mp h
  obtain ⟨d, hd, -⟩ := required_eq_valid.mp ht
  cases hd

mutual

theorem valid_of_rule : ∀ (d : Datum) {p : Program}, rule d = .valid p → p.Valid
  | .record fields, _, h => valid_of_nodesField fields h
  | .list _, _, h => nomatch h
  | .scalar _, _, h => nomatch h

theorem valid_of_nodesField : ∀ (fields : List (Scalar × Datum)) {p : Program}, nodesField fields = .valid p → p.Valid
  | [], _, h => by
    cases h
    exact trivial
  | (k, d) :: fields, _, h => by
    rw [nodesField] at h
    split at h
    · exact valid_of_nodes d (Checked.under_eq_valid.mp h)
    · exact valid_of_nodesField fields h

theorem valid_of_nodes : ∀ (d : Datum) {p : Program}, nodes d = .valid p → p.Valid
  | .list ds, _, h => valid_of_nodeList ds h
  | .record _, _, h => nomatch h
  | .scalar _, _, h => nomatch h

theorem valid_of_nodeList : ∀ (ds : List Datum) {i : Nat} {p : Program}, nodeList i ds = .valid p → p.Valid
  | [], _, _, h => by
    cases h
    exact trivial
  | d :: ds, _, _, h => by
    rw [nodeList] at h
    obtain ⟨_, rest, hcons, hrest, rfl⟩ := Checked.seq_eq_valid.mp h
    obtain ⟨n, hn, rfl⟩ := Checked.map_eq_valid.mp hcons
    exact Node.valid_cons.mpr ⟨valid_of_node d (Checked.under_eq_valid.mp hn), valid_of_nodeList ds hrest⟩

theorem valid_of_node : ∀ (d : Datum) {n : Node}, node d = .valid n → n.Valid
  | .record fields, .step s, h => Step.ensures_rule _ s (node_eq_step_iff.mp h).1
  | .record fields, .branch t p, h => by
    obtain ⟨ht, hp⟩ := branchRule_eq_valid.mp (node_eq_branch_iff.mp h)
    exact ⟨required_ensures Opponent.ensures_rule ht, valid_of_body fields hp⟩
  | .list _, _, h => nomatch h
  | .scalar _, _, h => nomatch h

theorem valid_of_body : ∀ (fields : List (Scalar × Datum)) {p : Program}, body fields = .valid p → p.Valid
  | [], _, h => nomatch h
  | (k, d) :: fields, _, h => by
    rw [body] at h
    split at h
    · exact valid_of_rule d h
    · exact valid_of_body fields h

end

theorem nodeList_plainNodes : ∀ {p : Program} (i : Nat), p.Valid → nodeList i p.plainNodes = .valid p
  | done, _, _ => rfl
  | step s rest, i, h => by
    have hs : node s.plain = .valid (.step s) := by
      rw [node_eq_step_iff, Step.rule_plain_eq]
      exact ⟨Step.ofKind_of_valid h.1, branchRule_plain_step s⟩
    rw [plainNodes, nodeList, hs, nodeList_plainNodes (i + 1) h.2]
    rfl
  | branch t body rest, i, h => by
    obtain ⟨ht, hbody, hrest⟩ := h
    have hb : node (Node.branch t body).plain = .valid (.branch t body) := by
      rw [node_eq_branch_iff]
      refine branchRule_eq_valid.mpr ⟨required_eq_valid.mpr ⟨t.plain, rfl, Opponent.rule_plain_of_valid ht⟩, ?_⟩
      show (nodeList 0 body.plainNodes).under (.field "nodes") = .valid body
      rw [nodeList_plainNodes 0 hbody]
      rfl
    show Node.cons <$> (node (Node.branch t body).plain).under (.item i) <*> nodeList (i + 1) rest.plainNodes = _
    rw [hb, nodeList_plainNodes (i + 1) hrest]
    rfl

theorem rule_plain_of_valid {p : Program} (h : p.Valid) : rule p.plain = .valid p := by
  show (nodeList 0 p.plainNodes).under (.field "nodes") = .valid p
  rw [nodeList_plainNodes 0 h]
  rfl

theorem Valid.beq_self : ∀ {p : Program}, p.Valid → (p == p) = true
  | done, _ => rfl
  | step s rest, h => by
    show (s == s && rest == rest) = true
    rw [beq_self_eq_true, Valid.beq_self h.2]
    rfl
  | branch t body rest, h => by
    show (t == t && body == body && rest == rest) = true
    rw [h.1.beq_self, Valid.beq_self h.2.1, Valid.beq_self h.2.2]
    rfl

/-! ## Nothing is lost -/

def itemsOf (fields : List (Scalar × Datum)) : List Datum :=
  match Datum.find? (.text "nodes") fields with
  | some (.list ds) => ds
  | _ => []

end Program
end CombatPlan
