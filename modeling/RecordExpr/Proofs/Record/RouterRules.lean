import Mathlib.Data.List.Nodup
import RecordExpr.Proofs.Record.Strategies
import RecordExpr.Proofs.Validation.Issues

/-!
# The rules of a router

A router accepts a rule under a new name that is not reserved, if the condition is valid and
Boolean; the rule then comes last. Otherwise it stays as it is (`offer_cases`). So whatever rules
are offered to a router, it has sound rules afterwards (`Sound`, kept by one offer in
`Sound.afterOffer`).

Hence the places that a record goes to are never missing and never the same
(`rules_of_afterOffers`): several of them are the names of rules, and a rule has no name of another
place.
-/

namespace RecordExpr.Router

/-- A router takes a rule with a valid Boolean condition, under a name that is free. -/
structure Accepts (r : Router) (name : String) (condition : Expr) : Prop where
  unreserved : name ∉ reservedNames
  unused : name ∉ r.ruleNames
  valid : hasErrors (validate condition) = false
  boolean : condition.kind = .boolean

/-- The names of the rules tell where a record goes, and the conditions can be used. -/
structure Sound (r : Router) : Prop where
  nodup : r.ruleNames.Nodup
  unreserved : ∀ name ∈ r.ruleNames, name ∉ reservedNames
  valid : ∀ rule ∈ r.rules, hasErrors (validate rule.condition) = false
  boolean : ∀ rule ∈ r.rules, rule.condition.kind = .boolean

/-- The router after a rule, a name and a condition, has been offered to it. -/
def afterOffer (r : Router) (rule : String × Expr) : Router :=
  ((offer rule.1 rule.2).run.run r).2

/-- The router after some rules have been offered to it, one after another. -/
def afterOffers (r : Router) (rules : List (String × Expr)) : Router := rules.foldl afterOffer r

variable {r : Router} {name : String} {condition : Expr} {record : Lookup} {now : Instant}

/-! ### One rule -/

/-- Everything that adding a rule can come to. -/
theorem add_cases (r : Router) (name : String) (condition : Expr) :
    (r.Accepts name condition ∧
      r.add name condition = .ok { r with rules := r.rules ++ [⟨name, condition⟩] }) ∨
    (¬r.Accepts name condition ∧ ∃ failure, r.add name condition = .error failure) := by
  -- the conditions of `Accepts` are tested one after another, and the first that fails refuses
  by_cases hres : name ∈ reservedNames
  · refine .inr ⟨fun h => h.unreserved hres, .reservedRule name, ?_⟩
    rw [add, if_pos (List.contains_iff_mem.mpr hres)]
  by_cases hused : name ∈ r.ruleNames
  · refine .inr ⟨fun h => h.unused hused, .duplicateRule name, ?_⟩
    rw [add, if_neg (by simpa using hres), if_pos (List.contains_iff_mem.mpr hused)]
  have hadd : r.add name condition =
      (requireValid (.rule name) (validateAs condition .boolean) >>= fun _ =>
        .ok { r with rules := r.rules ++ [⟨name, condition⟩] }) := by
    rw [add, if_neg (by simpa using hres), if_neg (by simpa using hused)]
    rfl
  cases hv : hasErrors (validateAs condition .boolean) with
  | false =>
    obtain ⟨hvalid, hkind⟩ := hasErrors_validateAs_eq_false_iff.mp hv
    refine .inl ⟨⟨hres, hused, hvalid, hkind⟩, ?_⟩
    rw [hadd, requireValid_eq_ok_iff.mpr hv]
    rfl
  | true =>
    refine .inr ⟨fun h => ?_, _, by rw [hadd, requireValid_of_hasErrors hv]; rfl⟩
    have hf := hasErrors_validateAs_eq_false_iff.mpr ⟨h.valid, h.boolean⟩
    cases hv.symm.trans hf

/-- An offer that is refused leaves the router as it was. -/
theorem run_offer (r : Router) (name : String) (condition : Expr) :
    (offer name condition).run.run r =
      match r.add name condition with
      | .ok next => (.ok (), next)
      | .error failure => (.error failure, r) := by
  show (liftM (r.add name condition) >>= set : ExceptT Failure (StateM Router) Unit).run.run r = _
  cases r.add name condition <;> rfl

/-- Everything that an offer can come to: the rule is the last one, or the router is as it was. -/
theorem offer_cases (r : Router) (name : String) (condition : Expr) :
    (r.Accepts name condition ∧ (offer name condition).run.run r =
      (.ok (), { r with rules := r.rules ++ [⟨name, condition⟩] })) ∨
    (¬r.Accepts name condition ∧ ∃ failure,
      (offer name condition).run.run r = (.error failure, r)) := by
  rw [run_offer]
  rcases r.add_cases name condition with ⟨h, ha⟩ | ⟨h, failure, ha⟩
  · exact .inl ⟨h, by rw [ha]⟩
  · exact .inr ⟨h, failure, by rw [ha]⟩

theorem afterOffer_cases (r : Router) (rule : String × Expr) :
    (r.Accepts rule.1 rule.2 ∧
      r.afterOffer rule = { r with rules := r.rules ++ [⟨rule.1, rule.2⟩] }) ∨
    r.afterOffer rule = r := by
  rw [afterOffer]
  rcases r.offer_cases rule.1 rule.2 with ⟨ha, ho⟩ | ⟨_, _, ho⟩ <;> rw [ho]
  · exact .inl ⟨ha, rfl⟩
  · exact .inr rfl

/-! ### Sound rules -/

theorem sound_new (strategy : Strategy) (config : Config) : (new strategy config).Sound :=
  ⟨.nil, by simp [new, ruleNames], by simp [new], by simp [new]⟩

/-- A rule that was accepted keeps a router sound. -/
theorem Sound.push (h : r.Sound) (ha : r.Accepts name condition) :
    Sound { r with rules := r.rules ++ [⟨name, condition⟩] } := by
  have hnames : ruleNames { r with rules := r.rules ++ [⟨name, condition⟩] } =
      r.ruleNames ++ [name] := by simp [ruleNames]
  constructor
  · rw [hnames, List.nodup_append]
    -- the new name differs from all before, which is why it has been accepted
    refine ⟨h.nodup, List.nodup_singleton name, ?_⟩
    rintro other ho _ hn rfl
    exact ha.unused (List.mem_singleton.mp hn ▸ ho)
  · rw [hnames, List.forall_mem_append, List.forall_mem_singleton]
    exact ⟨h.unreserved, ha.unreserved⟩
  · rw [List.forall_mem_append, List.forall_mem_singleton]
    exact ⟨h.valid, ha.valid⟩
  · rw [List.forall_mem_append, List.forall_mem_singleton]
    exact ⟨h.boolean, ha.boolean⟩

theorem Sound.afterOffer (h : r.Sound) (rule : String × Expr) : (r.afterOffer rule).Sound := by
  rcases r.afterOffer_cases rule with ⟨ha, ho⟩ | ho <;> rw [ho]
  · exact h.push ha
  · exact h

/-- Any offers keep it sound. -/
theorem Sound.afterOffers (h : r.Sound) (rules : List (String × Expr)) :
    (r.afterOffers rules).Sound := by
  induction rules generalizing r with
  | nil => exact h
  | cons rule rules ih => exact ih (h.afterOffer rule)

theorem strategy_afterOffers (r : Router) (rules : List (String × Expr)) :
    (r.afterOffers rules).strategy = r.strategy := by
  induction rules generalizing r with
  | nil => rfl
  | cons rule rules ih =>
    refine (ih _).trans ?_
    rcases r.afterOffer_cases rule with ⟨_, ho⟩ | ho <;> rw [ho]

/-! ### Places -/

/-- By sound rules a record goes somewhere, and nowhere twice. -/
theorem Sound.places (h : r.Sound) (record : Lookup) (now : Instant) :
    (r.route record now).places ≠ [] ∧ (r.route record now).places.Nodup ∧
      (r.strategy = .byName →
        (r.route record now).places.Sublist r.ruleNames ∨
          (r.route record now).places = [unmatchedName] ∨
            (r.route record now).places = [failureName]) := by
  rw [route_eq_routeUnder]
  rcases r.routeUnder_cases r.strategy record now with
    ⟨_, names, hne, hsub, hr⟩ | ⟨hs, hr⟩ | hr | ⟨_, _, _, _, hr⟩ <;> rw [hr]
  · exact ⟨hne, h.nodup.sublist hsub, fun _ => .inl hsub⟩
  · exact ⟨List.cons_ne_nil _ _, List.nodup_singleton _, fun hs' => absurd hs' hs⟩
  · exact ⟨List.cons_ne_nil _ _, List.nodup_singleton _, fun _ => .inr (.inl rfl)⟩
  · exact ⟨List.cons_ne_nil _ _, List.nodup_singleton _, fun _ => .inr (.inr rfl)⟩

/-- Whatever rules have been offered to a router, those that it has are sound. It takes another one
just if it can be used under its name, as the last one, and else stays as it is. So every record
goes somewhere and nowhere twice: by name to rules in their order, or to one other place. -/
theorem rules_of_afterOffers (strategy : Strategy) (config : Config)
    (rules : List (String × Expr)) :
    let r := (new strategy config).afterOffers rules
    r.Sound ∧
    (∀ name condition,
      (r.Accepts name condition ∧ (offer name condition).run.run r =
        (.ok (), { r with rules := r.rules ++ [⟨name, condition⟩] })) ∨
      (¬r.Accepts name condition ∧ ∃ failure,
        (offer name condition).run.run r = (.error failure, r))) ∧
    ∀ record now,
      (r.route record now).places ≠ [] ∧ (r.route record now).places.Nodup ∧
      (strategy = .byName →
        (r.route record now).places.Sublist r.ruleNames ∨
          (r.route record now).places = [unmatchedName] ∨
            (r.route record now).places = [failureName]) := by
  intro r
  have hs : r.Sound := (sound_new strategy config).afterOffers rules
  have hstrategy : r.strategy = strategy := strategy_afterOffers _ rules
  refine ⟨hs, r.offer_cases, fun record now => ?_⟩
  rw [← hstrategy]
  exact hs.places record now

/-- A name that is used or reserved, or a condition that is a text, is refused. -/
theorem rules_of_afterOffers_two_of_five :
    let yes := Expr.literal (.present (.boolean true))
    let r := (new .byName .default).afterOffers
      [("a", yes), ("a", yes), ("failure", yes), ("b", .attr "x"),
        ("c", .unary .isNull (.attr "x"))]
    let places := (r.route (fun _ => none) .epoch).places
    r.ruleNames = ["a", "c"] ∧ r.ruleNames.Nodup ∧ places.Nodup ∧
      (places.Sublist ["a", "c"] ∨ places = [unmatchedName] ∨ places = [failureName]) := by
  intro yes r places
  have hnames : r.ruleNames = ["a", "c"] := rfl
  obtain ⟨hs, _, hplaces⟩ := rules_of_afterOffers .byName .default
    [("a", yes), ("a", yes), ("failure", yes), ("b", .attr "x"), ("c", .unary .isNull (.attr "x"))]
  obtain ⟨_, hnodup, hbyName⟩ := hplaces (fun _ => none) .epoch
  exact ⟨hnames, hs.nodup, hnodup, hnames ▸ hbyName rfl⟩

end RecordExpr.Router
