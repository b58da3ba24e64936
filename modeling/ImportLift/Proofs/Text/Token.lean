-- Occurrences of a part that are whole tokens: no character of a name stands
-- on either side. Replacing these only is what replacing all of them does
-- where all are whole tokens. Any other occurrence stands in the result, when
-- the part and its replacement start with one character that the part does
-- not hold again.
import ImportLift.Proofs.Text.Replace
import ImportLift.Text.Word

namespace ImportLift.Text

/-! ## Replacing whole tokens -/

/-- A character that goes on with a name: a letter, a digit, an underscore or a dollar sign. -/
def isNameChar (c : Char) : Bool := isWord c || c = '$'

/-- What stands between the two characters is a whole token. -/
def isToken (behind next : Option Char) : Bool := !(behind.any isNameChar || next.any isNameChar)

/-- Replaces each occurrence of `old` that is a whole token, from left to right. The first
argument counts the characters still to skip, the second is the character behind the place. -/
def replaceTokensFrom (old new : Text) : Nat → Option Char → Text → Text
  | _, _, [] => []
  | 0, behind, c :: rest =>
    if old.isPrefixOf (c :: rest) && isToken behind ((c :: rest).drop old.length).head? then
      new ++ replaceTokensFrom old new (old.length - 1) (some c) rest
    else c :: replaceTokensFrom old new 0 (some c) rest
  | skip + 1, _, c :: rest => replaceTokensFrom old new skip (some c) rest

/-- Every occurrence of `old` that is a whole token becomes `new`, and no other one does. -/
def replaceTokens (text old new : Text) : Text := replaceTokensFrom old new 0 none text

/-- The second text is the first one with the whole tokens `old` replaced from left to right. -/
inductive TokensReplaced (old new : Text) : Option Char → Text → Text → Prop
  | nil (behind : Option Char) : TokensReplaced old new behind [] []
  | found {behind : Option Char} {text result : Text} : isToken behind text.head? = true →
      TokensReplaced old new (old.getLast?.or behind) text result →
      TokensReplaced old new behind (old ++ text) (new ++ result)
  | kept {behind : Option Char} {c : Char} {text result : Text} :
      (∀ after, c :: text = old ++ after → isToken behind after.head? = false) →
      TokensReplaced old new (some c) text result →
      TokensReplaced old new behind (c :: text) (c :: result)

variable {old new text result before after : Text} {behind : Option Char}

theorem replaceTokensFrom_skip (old new skipped text : Text) (behind : Option Char) :
    replaceTokensFrom old new skipped.length behind (skipped ++ text) =
      replaceTokensFrom old new 0 (skipped.getLast?.or behind) text := by
  induction skipped generalizing behind with
  | nil => rfl
  | cons c skipped ih =>
    rw [List.cons_append, List.length_cons, replaceTokensFrom, ih, List.getLast?_cons,
      Option.some_or, ← Option.or_some]

theorem tokensReplaced_replaceTokensFrom (hold : old ≠ []) (new : Text) (behind : Option Char)
    (text : Text) : TokensReplaced old new behind text (replaceTokensFrom old new 0 behind text) := by
  induction hlength : text.length using Nat.strongRecOn generalizing text behind with
  | ind n ih =>
    cases text with
    | nil => exact .nil behind
    | cons c text =>
      rw [replaceTokensFrom]
      split
      · rename_i hfound
        rw [Bool.and_eq_true] at hfound
        obtain ⟨rest, hrest⟩ := List.isPrefixOf_iff_prefix.mp hfound.1
        have htoken := hfound.2
        obtain ⟨d, more, rfl⟩ := List.exists_cons_of_ne_nil hold
        obtain ⟨rfl, htext⟩ := List.cons.inj hrest
        have hlast : (d :: more).getLast?.or behind = more.getLast?.or (some d) := by
          rw [List.getLast?_cons, Option.some_or, ← Option.or_some]
        rw [← hrest, List.drop_left] at htoken
        rw [← hrest, List.length_cons, Nat.add_sub_cancel, ← htext]
        change TokensReplaced _ _ _ _ (new ++ replaceTokensFrom _ _ _ _ (more ++ rest))
        rw [replaceTokensFrom_skip, ← hlast]
        refine .found htoken (ih rest.length ?_ _ rest rfl)
        rw [← hlength, ← htext]
        change rest.length < (d :: (more ++ rest)).length
        rw [List.length_cons, List.length_append]
        omega
      · rename_i hnone
        refine .kept (fun after hafter => ?_) (ih text.length ?_ _ text rfl)
        · rw [Bool.and_eq_true, hafter, List.drop_left, List.isPrefixOf_iff_prefix] at hnone
          rw [Bool.eq_false_iff]
          exact fun htoken => hnone ⟨List.prefix_append _ _, htoken⟩
        · rw [← hlength, List.length_cons]
          omega

/-! ## Against replacing every occurrence -/

/-- Where every occurrence is a whole token, all of them are replaced. -/
theorem TokensReplaced.eq_replaceAll (hold : old ≠ [])
    (h : TokensReplaced old new behind text result)
    (htokens : ∀ before after, text = before ++ (old ++ after) →
      isToken (before.getLast?.or behind) after.head? = true) :
    result = replaceAll text old new := by
  induction h with
  | nil _ => rw [replaceAll_nil]
  | @found behind text result _ _ ih =>
    rw [replaceAll_old hold, ih]
    intro before after hsplit
    have htoken := htokens (old ++ before) after (by rw [hsplit, List.append_assoc])
    rwa [List.getLast?_append, Option.or_assoc] at htoken
  | @kept behind c text result hkept _ ih =>
    have hnone : ¬ old <+: c :: text := by
      rintro ⟨after, hafter⟩
      have htoken := htokens [] after hafter.symm
      rw [List.getLast?_nil, Option.none_or, hkept after hafter.symm] at htoken
      cases htoken
    rw [replaceAll_cons hnone, ih]
    intro before after hsplit
    have htoken := htokens (c :: before) after (by rw [hsplit, List.cons_append])
    rwa [List.getLast?_cons, Option.some_or, ← Option.or_some] at htoken

/-- Up to the next occurrence the text is kept. -/
theorem TokensReplaced.prefix_of_prefix {first : Char} {more start : Text}
    (h : TokensReplaced (first :: more) new behind text result) (hstart : first ∉ start)
    (hbegins : start <+: text) : start <+: result := by
  induction h generalizing start with
  | nil _ => exact hbegins
  | found _ _ _ =>
    cases start with
    | nil => exact List.nil_prefix
    | cons c start =>
      obtain ⟨rfl, -⟩ := List.cons_prefix_cons.mp hbegins
      exact absurd List.mem_cons_self hstart
  | kept _ _ ih =>
    cases start with
    | nil => exact List.nil_prefix
    | cons c start =>
      obtain ⟨rfl, hlater⟩ := List.cons_prefix_cons.mp hbegins
      rw [List.mem_cons, not_or] at hstart
      exact List.cons_prefix_cons.mpr ⟨rfl, ih hstart.2 hlater⟩

/-- Two occurrences do not overlap, if the first character of the part stands in it only once. -/
theorem eq_append_of_two {first : Char} {more : Text} (hmore : first ∉ more)
    (h : first :: more ++ text = before ++ (first :: more ++ after)) (hne : before ≠ []) :
    ∃ between, before = first :: more ++ between ∧
      text = between ++ (first :: more ++ after) := by
  rcases List.append_eq_append_iff.mp h with ⟨between, hbefore, htext⟩ | ⟨later, hlater, htext⟩
  · exact ⟨between, hbefore, htext⟩
  · cases later with
    | nil =>
      rw [List.append_nil] at hlater
      exact ⟨[], by rw [hlater, List.append_nil], htext.symm⟩
    | cons c later =>
      obtain ⟨rfl, -⟩ := List.cons.inj htext
      obtain ⟨d, before, rfl⟩ := List.exists_cons_of_ne_nil hne
      obtain ⟨-, rfl⟩ := List.cons.inj hlater
      exact absurd (by simp) hmore

/-- An occurrence that is no whole token stands in the result. -/
theorem TokensReplaced.infix_of_not_token {first : Char} {more : Text} (hmore : first ∉ more)
    (h : TokensReplaced (first :: more) new behind text result)
    (hsplit : text = before ++ (first :: more ++ after))
    (htoken : isToken (before.getLast?.or behind) after.head? = false) :
    first :: more <:+: result := by
  induction h generalizing before with
  | nil _ => simp at hsplit
  | @found behind text result hfound _ ih =>
    by_cases hne : before = []
    · obtain rfl := hne
      obtain rfl : text = after := List.append_cancel_left hsplit
      rw [List.getLast?_nil, Option.none_or, hfound] at htoken
      cases htoken
    · obtain ⟨between, rfl, htext⟩ := eq_append_of_two hmore hsplit hne
      rw [List.getLast?_append, Option.or_assoc] at htoken
      exact (ih htext htoken).trans (List.suffix_append _ _).isInfix
  | @kept behind c text result _ hlater ih =>
    cases before with
    | nil =>
      obtain ⟨rfl, rfl⟩ := List.cons.inj hsplit
      have hbegins := hlater.prefix_of_prefix hmore (List.prefix_append more after)
      exact (List.cons_prefix_cons.mpr ⟨rfl, hbegins⟩).isInfix
    | cons d before =>
      obtain ⟨rfl, htext⟩ := List.cons.inj hsplit
      rw [List.getLast?_cons, Option.some_or, ← Option.or_some] at htoken
      exact List.infix_cons (ih htext htoken)

/-- To replace whole tokens only is to replace every occurrence exactly where each one is a whole
token. -/
theorem replaceTokens_eq_replaceAll_iff {first : Char} {more more' : Text} (hmore : first ∉ more)
    (hmore' : first ∉ more') (hapart : ¬ more <+: more' ∧ ¬ more' <+: more) (text : Text) :
    replaceTokens text (first :: more) (first :: more') =
        replaceAll text (first :: more) (first :: more') ↔
      ∀ before after, text = before ++ (first :: more ++ after) →
        isToken before.getLast? after.head? = true := by
  have hold : first :: more ≠ [] := List.cons_ne_nil _ _
  have hpass := tokensReplaced_replaceTokensFrom hold (first :: more') none text
  refine ⟨?_, ?_⟩
  · intro hsame before after hsplit
    rw [← Bool.not_eq_false]
    intro htoken
    have hinside : first :: more <:+: replaceTokens text (first :: more) (first :: more') :=
      hpass.infix_of_not_token hmore hsplit (by rwa [Option.or_none])
    rw [hsame] at hinside
    exact not_infix_replaceAll hmore hmore' hapart text hinside
  · intro htokens
    refine hpass.eq_replaceAll hold fun before after hsplit => ?_
    rw [Option.or_none]
    exact htokens before after hsplit

end ImportLift.Text
