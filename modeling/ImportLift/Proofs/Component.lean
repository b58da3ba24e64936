-- What the class text of a component says. Its first accessor cuts the text
-- in two and nothing is lost; the name it returns is never blank. A line feed
-- put behind the text changes neither the accessor nor the name.
import ImportLift.Component
import ImportLift.Proofs.Pattern.Extension

namespace ImportLift

/-! ## The name in an accessor -/

namespace Pattern

/-- The further words of a dashed name start with a dash. -/
theorem dash_of_again {c c' : Cursor} {kept kept' : Captures}
    (h : (again (seq (mark '-') word)).Reaches c kept c' kept') :
    ∃ mid, c.rest = '-' :: mid ++ c'.rest := by
  obtain ⟨c₁, kept₁, hfirst, hlater⟩ : ∃ c₁ kept₁,
      (seq (mark '-') word).Reaches c kept c₁ kept₁ ∧ c'.rest <:+ c₁.rest := by
    cases h with
    | once h1 => exact ⟨_, _, h1, List.suffix_rfl⟩
    | more h1 h2 => exact ⟨_, _, h1, h2.rest_suffix⟩
  cases hfirst with
  | seq h1 h2 =>
    cases h1 with
    | one behind rest kept hok =>
      obtain ⟨mid, hmid⟩ := hlater.trans h2.rest_suffix
      refine ⟨mid, ?_⟩
      rw [of_decide_eq_true hok, List.cons_append, hmid]

/-- A dashed name holds a dash. -/
theorem dash_mem_of_dashed {c c' : Cursor} {kept kept' : Captures}
    (h : dashed.Reaches c kept c' kept') : '-' ∈ c.upTo c' := by
  have hwhole := h.upTo_append
  cases h with
  | seq h1 h2 =>
    obtain ⟨first, hfirst⟩ := h1.rest_suffix
    obtain ⟨mid, hmid⟩ := dash_of_again h2
    rw [← hfirst, hmid, ← List.append_assoc] at hwhole
    rw [List.append_cancel_right hwhole]
    simp

/-- Only a dashed name is kept as an identity. -/
theorem accessor_keeps_identity {q : Pattern} (h : (Capture.identity, q) ∈ accessor.keeps) :
    q = dashed := by
  have hkeeps : accessor.keeps = [(.quote, one isQuote), (.identity, dashed)] := rfl
  rw [hkeeps] at h
  simpa using h

end Pattern

namespace Component

/-- What an accessor keeps as its identity is not blank. -/
theorem identity_not_blank {script identity : Text} {m : Match}
    (hm : Rule.accessor.pattern.find? script = some m)
    (hk : m.kept? .identity = some identity) : identity.allBlank = false := by
  obtain ⟨q, hq, c, c', kept, kept', hr, rfl⟩ := (Pattern.find?_standsIn hm).kept?_matched hk
  rw [Pattern.accessor_keeps_identity hq] at hr
  have hdash := Pattern.dash_mem_of_dashed hr
  exact Bool.eq_false_iff.mpr fun hall =>
    absurd (List.all_eq_true.mp hall '-' hdash) (by decide)

theorem filled?_identity {script : Text} {m : Match}
    (hm : Rule.accessor.pattern.find? script = some m) :
    m.filled? .identity = m.kept? .identity := by
  cases hk : m.kept? .identity with
  | none => simp [Match.filled?, hk]
  | some identity => exact Match.filled?_eq_some.mpr ⟨hk, identity_not_blank hm hk⟩

/-! ## The name that a class text declares -/

/-- The name that the first accessor of a text returns, or why there is none. -/
def nameIn (script : Text) : Except FailureKind Text :=
  match Rule.accessor.pattern.find? script with
  | none => .error .noIdentity
  | some m =>
    match m.kept? .identity with
    | none => .error .unreadIdentity
    | some identity => .ok identity

/-- A line feed behind the text moves no accessor. -/
theorem find?_break (script : Text) :
    Rule.accessor.pattern.find? (script ++ ['\n']) = Rule.accessor.pattern.find? script :=
  Pattern.find?_extend Pattern.accessor_shutOut_break script

theorem nameIn_break (script : Text) : nameIn (script ++ ['\n']) = nameIn script := by
  rw [nameIn, find?_break, nameIn]

/-- A component is found exactly where a name is, and has that name. -/
theorem ofScript_name (oldBase newBase script : Text) :
    ((ofScript oldBase newBase script).map identity).mapError Failure.kind = nameIn script := by
  unfold ofScript nameIn
  cases hm : Rule.accessor.pattern.find? script with
  | none => rfl
  | some m =>
    simp only [filled?_identity hm]
    cases m.kept? .identity <;> rfl

/-! ## The two parts of a class text -/

theorem head_eq_take (c : Component) (h : c.start ≤ c.stop) : c.head = c.text.take c.stop := by
  rw [head, before, declaration]
  have htake : c.text.take c.start = (c.text.take c.stop).take c.start := by
    rw [List.take_take, Nat.min_eq_left h]
  rw [htake, List.take_append_drop]

/-- The component of a class text: its head ends where the first accessor ends. -/
theorem ofScript_eq_ok {oldBase newBase script : Text} {c : Component}
    (h : ofScript oldBase newBase script = .ok c) :
    ∃ found before, Rule.accessor.pattern.find? script = some found ∧
      found.kept? .identity = some c.identity ∧
      before.length = found.start ∧ c.before = before ∧ c.head = before ++ found.text ∧
      script = c.head ++ c.after ∧ c.moduleHead = normalise oldBase newBase c.head := by
  unfold ofScript at h
  cases hm : Rule.accessor.pattern.find? script with
  | none => simp [hm] at h
  | some found =>
    simp only [hm, filled?_identity hm] at h
    cases hk : found.kept? .identity with
    | none => simp [hk] at h
    | some identity =>
      simp only [hk, Except.ok.injEq] at h
      obtain ⟨before, after, hscript, hlen, _⟩ := Pattern.find?_standsIn hm
      subst h
      refine ⟨found, before, rfl, hk, hlen, ?_, ?_, ?_, rfl⟩
      · simp [Component.before, hscript, ← hlen]
      · rw [head_eq_take _ (by simp [Match.stop])]
        have hstop : found.stop = (before ++ found.text).length := by simp [Match.stop, hlen]
        simp only [hscript, hstop, List.take_left]
      · rw [head_eq_take _ (by simp [Match.stop]), Component.after, List.take_append_drop]

end Component

end ImportLift
