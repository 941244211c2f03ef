import PageTemplates.Expr.Scan
import PageTemplates.Proofs.Except

/-! # What scanning leaves

A scanner leaves an end of its source, whether it succeeds or refuses. So a refusal arises
at the first byte of a character of the source, or where the source ends.
-/

namespace PageTemplates.Token

/-- What is left of a source by a scanner, also by one that refuses. -/
def remainder {α : Type} (rest : α → List Char) : Except Refused α → List Char
  | .ok scanned => rest scanned
  | .error refused => refused.2

theorem remainder_map_suffix {α β : Type} {result : Except Refused (α × List Char)}
    {transform : α × List Char → β × List Char} {source : List Char}
    (ends : remainder Prod.snd result <:+ source)
    (keeps : ∀ scanned, (transform scanned).2 = scanned.2) :
    remainder Prod.snd (result.map transform) <:+ source := by
  cases result with
  | error refused => exact ends
  | ok scanned =>
      rw [map_ok, remainder, keeps]
      exact ends

/-! ## Numbers -/

theorem spanSign_suffix (source : List Char) : (spanSign source).2 <:+ source := by
  unfold spanSign
  split
  · exact List.suffix_cons _ _
  · exact List.suffix_cons _ _
  · exact List.suffix_refl _

theorem spanDigits_suffix (source : List Char) : (spanDigits source).2 <:+ source :=
  List.dropWhile_suffix Char.isDigit

theorem scanFraction_suffix (source : List Char) : (scanFraction source).2 <:+ source := by
  unfold scanFraction
  split
  · exact (spanDigits_suffix _).trans (List.suffix_cons _ _)
  · exact List.suffix_refl _

theorem remainder_scanExponent (source : List Char) :
    remainder Prod.snd (scanExponent source) <:+ source := by
  unfold scanExponent
  split
  next mark rest =>
    have unsigned := (spanSign_suffix rest).trans (List.suffix_cons mark rest)
    split
    · simp only
      split
      · exact unsigned
      · exact (spanDigits_suffix _).trans unsigned
    · exact List.suffix_refl _
  next => exact List.suffix_refl _

theorem remainder_scanDecimal (source : List Char) :
    remainder Prod.snd (scanDecimal source) <:+ source := by
  have whole := spanDigits_suffix source
  simp only [scanDecimal]
  split
  · exact whole
  · have exponent := ((remainder_scanExponent _).trans (scanFraction_suffix _)).trans whole
    split
    next found =>
      rw [found] at exponent
      exact exponent
    next found =>
      rw [found] at exponent
      split <;> exact exponent

theorem remainder_scanRadix (radix : Nat) (source : List Char) :
    remainder Prod.snd (scanRadix radix source) <:+ source := by
  simp only [scanRadix]
  split
  · exact List.suffix_refl _
  · exact List.dropWhile_suffix _

theorem radixMark?_suffix {radix : Nat} {source rest : List Char}
    (marked : radixMark? source = some (radix, rest)) : rest <:+ source := by
  unfold radixMark? at marked
  split at marked
  · rcases Option.map_eq_some_iff.mp marked with ⟨found, -, equal⟩
    cases equal
    exact (List.suffix_cons _ _).trans (List.suffix_cons _ _)
  · cases marked

theorem remainder_scanNumber (source : List Char) :
    remainder Prod.snd (scanNumber source) <:+ source := by
  have decimal := remainder_scanDecimal source
  simp only [scanNumber]
  split
  next found =>
    split at found
    next radix rest marked =>
      have ends := (remainder_scanRadix radix rest).trans (radixMark?_suffix marked)
      rwa [found] at ends
    next => rwa [found] at decimal
  next value after found =>
    -- What follows the number is left, whether or not it goes on with a name.
    have ends : after <:+ source := by
      split at found
      next radix rest marked =>
        have ends := (remainder_scanRadix radix rest).trans (radixMark?_suffix marked)
        rwa [found] at ends
      next => rwa [found] at decimal
    split <;> exact ends

/-! ## Strings -/

theorem remainder_scanHexadecimal (count value : Nat) (source : List Char) :
    remainder Prod.snd (scanHexadecimal count value source) <:+ source := by
  induction count generalizing value source with
  | zero => exact List.suffix_refl _
  | succ count induction =>
      cases source with
      | nil => exact List.suffix_refl _
      | cons character rest =>
          rw [scanHexadecimal]
          split
          · exact (induction _ _).trans (List.suffix_cons _ _)
          · exact List.suffix_cons _ _

theorem remainder_scanCodePoint (source : List Char) :
    remainder Prod.snd (scanCodePoint source) <:+ source := by
  have digits : source.dropWhile (Number.isDigitOf 16) <:+ source := List.dropWhile_suffix _
  simp only [scanCodePoint]
  split
  · exact digits
  · split
    next after =>
      have ends := (after ▸ List.suffix_cons _ _).trans digits
      split <;> exact ends
    next after => exact (after ▸ List.suffix_cons _ _).trans digits
    next => exact List.nil_suffix

theorem remainder_scanEscape (source : List Char) :
    remainder Prod.snd (scanEscape source) <:+ source := by
  unfold scanEscape
  split
  · exact List.suffix_refl _
  · exact remainder_map_suffix
      ((remainder_scanHexadecimal _ _ _).trans (List.suffix_cons _ _)) fun _ => rfl
  · exact ((remainder_scanCodePoint _).trans (List.suffix_cons _ _)).trans (List.suffix_cons _ _)
  · exact remainder_map_suffix
      ((remainder_scanHexadecimal _ _ _).trans (List.suffix_cons _ _)) fun _ => rfl
  · exact (List.suffix_cons _ _).trans (List.suffix_cons _ _)
  · -- Any other character is taken alone, whatever it stands for.
    split
    · exact List.suffix_cons _ _
    · split
      · split <;> exact List.suffix_cons _ _
      · split <;> exact List.suffix_cons _ _

theorem remainder_scanUnits (quote : Char) (source : List Char) :
    remainder Prod.snd (scanUnits quote source) <:+ source := by
  fun_induction scanUnits quote source with
  | case1 => exact List.suffix_refl _
  | case2 => exact List.suffix_cons _ _
  | case3 body refused escape =>
      have ends := remainder_scanEscape body
      rw [escape] at ends
      exact ends.trans (List.suffix_cons _ _)
  | case4 body head after escape _ induction =>
      have ends := remainder_scanEscape body
      rw [escape] at ends
      exact remainder_map_suffix ((induction.trans ends).trans (List.suffix_cons _ _))
        fun _ => rfl
  | case5 => exact List.suffix_cons _ _
  | case6 character body _ _ _ induction =>
      exact remainder_map_suffix (induction.trans (List.suffix_cons _ _)) fun _ => rfl

/-! ## Tokens -/

theorem remainder_scanToken (first : Char) (rest : List Char) :
    remainder Prod.snd (scanToken first rest) <:+ first :: rest := by
  unfold scanToken
  split
  · exact remainder_map_suffix (remainder_scanNumber _) fun _ => rfl
  · split
    · exact remainder_map_suffix
        ((remainder_scanUnits first rest).trans (List.suffix_cons _ _)) fun _ => rfl
    · split
      · exact List.dropWhile_suffix _
      · split
        next symbol =>
          rcases Option.map_eq_some_iff.mp symbol with ⟨found, -, equal⟩
          cases equal
          exact List.drop_suffix _ _
        next => exact List.suffix_refl _

theorem remainder_skipTrivia (source : List Char) :
    remainder id (skipTrivia source) <:+ source := by
  fun_induction skipTrivia source with
  | case1 => exact List.suffix_refl _
  | case2 body induction =>
      exact ((induction.trans (List.dropWhile_suffix _)).trans
        (List.suffix_cons _ _)).trans (List.suffix_cons _ _)
  | case3 body before after cut induction =>
      have ends : after <:+ body := ⟨before ++ ['*', '/'], Text.append_of_cutAt cut⟩
      exact ((induction.trans ends).trans (List.suffix_cons _ _)).trans (List.suffix_cons _ _)
  | case4 => exact List.suffix_refl _
  | case5 character body _ _ _ induction => exact induction.trans (List.suffix_cons _ _)
  | case6 => exact List.suffix_refl _

theorem skipTrivia_suffix {source rest : List Char}
    (skipped : skipTrivia source = .ok rest) : rest <:+ source := by
  have ends := remainder_skipTrivia source
  rwa [skipped] at ends

/-- One token of a source, and the tokens of what it leaves. -/
theorem scanFrom_eq (total : Nat) (source : List Char) :
    scanFrom total source =
      match skipTrivia source with
      | .error refused => .error refused
      | .ok [] => .ok []
      | .ok (first :: rest) =>
          match scanToken first rest with
          | .error refused => .error refused
          | .ok (token, after) =>
              (scanFrom total after).map
                (⟨token, total - byteLength (first :: rest), total - byteLength after⟩ :: ·) := by
  rw [scanFrom]
  split
  next skipped => rw [skipped]
  next skipped => rw [skipped]
  next skipped =>
    rw [skipped]
    dsimp only
    split
    next scanned => rw [scanned]
    next scanned => rw [scanned]

theorem scanFrom_refused_suffix {total : Nat} {source : List Char} {refused : Refused}
    (scanned : scanFrom total source = .error refused) : refused.2 <:+ source := by
  fun_induction scanFrom total source with
  | case1 source other skipped =>
      cases scanned
      have ends := remainder_skipTrivia source
      rwa [skipped] at ends
  | case2 => cases scanned
  | case3 source first rest skipped other found =>
      cases scanned
      have ends := remainder_scanToken first rest
      rw [found] at ends
      exact ends.trans (skipTrivia_suffix skipped)
  | case4 source first rest skipped token after found placed induction =>
      have ends := remainder_scanToken first rest
      rw [found] at ends
      cases others : scanFrom total after with
      | ok tokens => simp [others] at scanned
      | error problem =>
          rw [others] at scanned
          cases scanned
          exact ((induction others).trans ends).trans (skipTrivia_suffix skipped)

end PageTemplates.Token
