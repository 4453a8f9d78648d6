import TerminalGateway.Proofs.Text.Splitting

/-!
# Written forms of assets

An asset is written with a slash between its codes, and as a ticker with a broken bar between them.
The form with a slash is read in one way only, so it can be written again as it was read.  A ticker
may go on behind the second code; what it goes on with is passed over.

Main definitions:

- `Asset.IsHalved`: the codes before and after the first slash of a text.
- `Asset.IsTickerOf`: a text is the ticker of an asset, or goes on behind it.

Main results:

- Theorem `Asset.parse_eq_ok_iff`: the texts that are read, and what they are read as.
- Theorem `Asset.ofTicker?_eq_some_iff`: the tickers that are read, and what they are read as.
- Theorem `Asset.reads_own_forms`: what is read is written again, and what is written is read again.
-/

namespace TerminalGateway.Asset

variable {text ticker classCode secCode : String} {asset : Asset}

/-! ## Codes -/

theorem ofCodes_eq_ok_iff :
    ofCodes classCode secCode = .ok asset ↔
      classCode ≠ "" ∧ secCode ≠ "" ∧ asset = .instrument classCode secCode := by
  unfold ofCodes
  by_cases hclass : classCode = ""
  · simp [hclass]
  · by_cases hsec : secCode = ""
    · simp [hclass, hsec]
    · simp [hclass, hsec, eq_comm]

/-! ## The form with a slash -/

/-- The codes stand before and after the first slash of a text. -/
structure IsHalved (text classCode secCode : String) : Prop where
  text_eq : text = classCode ++ "/" ++ secCode
  isFirst : '/' ∉ classCode.toList

theorem splitFirst?_slash_iff :
    splitFirst? '/' text.toList = some (classCode.toList, secCode.toList) ↔
      IsHalved text classCode secCode := by
  have htext : text.toList = classCode.toList ++ '/' :: secCode.toList ↔
      text = classCode ++ "/" ++ secCode := by
    rw [← String.toList_inj]
    simp
  rw [splitFirst?_eq_some_iff, htext]
  exact ⟨fun ⟨htext, hfirst⟩ => ⟨htext, hfirst⟩, fun ⟨htext, hfirst⟩ => ⟨htext, hfirst⟩⟩

theorem parse_of_isHalved (h : IsHalved text classCode secCode) :
    parse text =
      if classCode = "*" ∧ secCode = "*" then .ok .any
      else if classCode = "*" ∨ secCode = "*" then .error (.invalid text)
      else ofCodes classCode secCode := by
  unfold parse
  rw [splitFirst?_slash_iff.mpr h]
  simp only [String.ofList_toList]
  rfl

/-- A text that is read has codes around a slash. -/
theorem exists_isHalved (h : parse text = .ok asset) :
    ∃ classCode secCode, IsHalved text classCode secCode := by
  unfold parse at h
  cases hsplit : splitFirst? '/' text.toList with
  | none =>
      rw [hsplit] at h
      cases h
  | some parts =>
      refine ⟨String.ofList parts.1, String.ofList parts.2, ?_⟩
      rw [← splitFirst?_slash_iff, String.toList_ofList, String.toList_ofList]
      exact hsplit

/-- The texts that are read are those with two codes around the first slash, both stars or neither
of them; two stars are read as the wildcard. -/
theorem parse_eq_ok_iff :
    parse text = .ok asset ↔ ∃ classCode secCode, IsHalved text classCode secCode ∧
      classCode ≠ "" ∧ secCode ≠ "" ∧
        (classCode = "*" ∧ secCode = "*" ∧ asset = .any ∨
          classCode ≠ "*" ∧ secCode ≠ "*" ∧ asset = .instrument classCode secCode) := by
  constructor
  · intro h
    obtain ⟨classCode, secCode, hhalved⟩ := exists_isHalved h
    refine ⟨classCode, secCode, hhalved, ?_⟩
    rw [parse_of_isHalved hhalved] at h
    split at h
    · rename_i hstars
      obtain ⟨rfl, rfl⟩ := hstars
      cases h
      exact ⟨by decide, by decide, .inl ⟨rfl, rfl, rfl⟩⟩
    · split at h
      · cases h
      · rename_i hnone
        obtain ⟨hclass, hsec, rfl⟩ := ofCodes_eq_ok_iff.mp h
        rw [not_or] at hnone
        exact ⟨hclass, hsec, .inr ⟨hnone.1, hnone.2, rfl⟩⟩
  · rintro ⟨classCode, secCode, hhalved, hclass, hsec, hstars⟩
    rw [parse_of_isHalved hhalved]
    rcases hstars with ⟨hclassStar, hsecStar, rfl⟩ | ⟨hclassStar, hsecStar, rfl⟩
    · rw [if_pos ⟨hclassStar, hsecStar⟩]
    · rw [if_neg fun h => hclassStar h.1, if_neg (not_or.mpr ⟨hclassStar, hsecStar⟩)]
      exact ofCodes_eq_ok_iff.mpr ⟨hclass, hsec, rfl⟩

/-- What is read is written as it was read. -/
theorem text_of_parse (h : parse text = .ok asset) : asset.text = text := by
  obtain ⟨classCode, secCode, hhalved, -, -, hstars⟩ := parse_eq_ok_iff.mp h
  rw [hhalved.text_eq]
  rcases hstars with ⟨rfl, rfl, rfl⟩ | ⟨-, -, rfl⟩
  · rfl
  · rfl

/-- An instrument is read as it was written if no slash stands in its class code and no code is a
star. -/
theorem parse_text (h : ofCodes classCode secCode = .ok asset) (hslash : '/' ∉ classCode.toList)
    (hclass : classCode ≠ "*") (hsec : secCode ≠ "*") : parse asset.text = .ok asset := by
  obtain ⟨hclassCode, hsecCode, rfl⟩ := ofCodes_eq_ok_iff.mp h
  exact parse_eq_ok_iff.mpr ⟨classCode, secCode, ⟨rfl, hslash⟩, hclassCode, hsecCode,
    .inr ⟨hclass, hsec, rfl⟩⟩

/-! ## Tickers -/

/-- A text is the ticker of an asset, or goes on behind it with a separator and another text. -/
def IsTickerOf (text : String) (asset : Asset) : Prop :=
  ∃ ticker, asset.ticker? = some ticker ∧
    (text = ticker ∨ ∃ more, text = ticker ++ tickerSeparator.toString ++ more)

theorem toList_joined (first second : String) :
    (first ++ tickerSeparator.toString ++ second).toList =
      first.toList ++ tickerSeparator :: second.toList := by
  simp

/-- The parts of a ticker are its codes, and a third part where it goes on behind them. -/
theorem isTickerOf_instrument_iff :
    IsTickerOf text (.instrument classCode secCode) ↔
      text.toList = classCode.toList ++ tickerSeparator :: secCode.toList ∨
        ∃ more, text.toList = classCode.toList ++ tickerSeparator ::
          (secCode.toList ++ tickerSeparator :: more) := by
  have halone : text = classCode ++ tickerSeparator.toString ++ secCode ↔
      text.toList = classCode.toList ++ tickerSeparator :: secCode.toList := by
    rw [← String.toList_inj, toList_joined]
  have hmore (more : String) : text = classCode ++ tickerSeparator.toString ++ secCode ++
      tickerSeparator.toString ++ more ↔ text.toList = classCode.toList ++ tickerSeparator ::
        (secCode.toList ++ tickerSeparator :: more.toList) := by
    rw [← String.toList_inj, toList_joined, toList_joined, List.append_assoc, List.cons_append]
  constructor
  · rintro ⟨ticker, hticker, htext⟩
    obtain rfl : classCode ++ tickerSeparator.toString ++ secCode = ticker := by
      simpa [ticker?] using hticker
    rcases htext with htext | ⟨more, htext⟩
    · exact .inl (halone.mp htext)
    · exact .inr ⟨more.toList, (hmore more).mp htext⟩
  · intro htext
    refine ⟨_, rfl, ?_⟩
    rcases htext with htext | ⟨more, htext⟩
    · exact .inl (halone.mpr htext)
    · refine .inr ⟨String.ofList more, (hmore _).mpr ?_⟩
      rw [String.toList_ofList, htext]

theorem ofTicker?_eq_some_iff_parts :
    ofTicker? text = some asset ↔ ∃ classCode secCode : String,
      ofCodes classCode secCode = .ok asset ∧
        ∃ rest, splitAll tickerSeparator text.toList =
          classCode.toList :: secCode.toList :: rest := by
  unfold ofTicker?
  constructor
  · intro h
    split at h
    · rename_i first second rest hsplit
      refine ⟨String.ofList first, String.ofList second, ?_, rest, ?_⟩
      · cases hcodes : ofCodes (String.ofList first) (String.ofList second) with
        | error fault =>
            rw [hcodes] at h
            cases h
        | ok made =>
            rw [hcodes] at h
            cases h
            rfl
      · rw [hsplit, String.toList_ofList, String.toList_ofList]
    · cases h
  · rintro ⟨classCode, secCode, hcodes, rest, hsplit⟩
    rw [hsplit]
    simp only [String.ofList_toList, hcodes]
    rfl

/-- The tickers that are read are those of an instrument without separators in its codes. -/
theorem ofTicker?_eq_some_iff :
    ofTicker? text = some asset ↔ ∃ classCode secCode, ofCodes classCode secCode = .ok asset ∧
      tickerSeparator ∉ classCode.toList ∧ tickerSeparator ∉ secCode.toList ∧
        IsTickerOf text asset := by
  rw [ofTicker?_eq_some_iff_parts]
  refine exists_congr fun classCode => exists_congr fun secCode => and_congr_right fun hcodes => ?_
  obtain ⟨-, -, rfl⟩ := ofCodes_eq_ok_iff.mp hcodes
  rw [splitAll_eq_cons_cons_iff, isTickerOf_instrument_iff]

/-! ## Both forms -/

/-- A text is read as an asset exactly if its codes, before and after the first slash, are not empty
and both or neither are stars; it is then written as it was read, so no other text is read as that
asset.  An instrument is read as it was written if no slash stands in its class code and no code is
a star.  If no separator stands in its codes, it is read from its ticker and from whatever goes on
behind it; and an asset is read from no other texts than these. -/
theorem reads_own_forms :
    (∀ text, (∃ asset, parse text = .ok asset) ↔ ∃ classCode secCode,
      IsHalved text classCode secCode ∧ classCode ≠ "" ∧ secCode ≠ "" ∧
        (classCode = "*" ↔ secCode = "*")) ∧
    (∀ text asset, parse text = .ok asset → asset.text = text) ∧
    (∀ text other asset, parse text = .ok asset → parse other = .ok asset → text = other) ∧
    (∀ classCode secCode asset, ofCodes classCode secCode = .ok asset → '/' ∉ classCode.toList →
      classCode ≠ "*" → secCode ≠ "*" → parse asset.text = .ok asset) ∧
    (∀ classCode secCode asset, ofCodes classCode secCode = .ok asset →
      tickerSeparator ∉ classCode.toList → tickerSeparator ∉ secCode.toList →
        asset.ticker?.isSome = true ∧ ∀ text, IsTickerOf text asset → ofTicker? text = some asset) ∧
    (∀ text asset, ofTicker? text = some asset → IsTickerOf text asset) := by
  refine ⟨?accepts, fun text asset => text_of_parse, ?unique, fun classCode secCode asset =>
    parse_text, ?tickers, ?others⟩
  case accepts =>
    intro text
    simp only [parse_eq_ok_iff]
    constructor
    · rintro ⟨asset, classCode, secCode, hhalved, hclass, hsec, hstars⟩
      refine ⟨classCode, secCode, hhalved, hclass, hsec, ?_⟩
      rcases hstars with ⟨hclassStar, hsecStar, -⟩ | ⟨hclassStar, hsecStar, -⟩
      · exact iff_of_true hclassStar hsecStar
      · exact iff_of_false hclassStar hsecStar
    · rintro ⟨classCode, secCode, hhalved, hclass, hsec, hstars⟩
      by_cases hstar : classCode = "*"
      · exact ⟨.any, classCode, secCode, hhalved, hclass, hsec, .inl ⟨hstar, hstars.mp hstar, rfl⟩⟩
      · exact ⟨.instrument classCode secCode, classCode, secCode, hhalved, hclass, hsec,
          .inr ⟨hstar, (not_congr hstars).mp hstar, rfl⟩⟩
  case unique =>
    intro text other asset h hother
    rw [← text_of_parse h, ← text_of_parse hother]
  case tickers =>
    intro classCode secCode asset hcodes hclass hsec
    refine ⟨?_, fun text htext => ofTicker?_eq_some_iff.mpr
      ⟨classCode, secCode, hcodes, hclass, hsec, htext⟩⟩
    obtain ⟨-, -, rfl⟩ := ofCodes_eq_ok_iff.mp hcodes
    rfl
  case others =>
    intro text asset h
    obtain ⟨_, _, -, -, -, hticker⟩ := ofTicker?_eq_some_iff.mp h
    exact hticker

/-- A slash in the security code does no harm, and neither does an interval behind a ticker. -/
theorem reads_own_forms_secondSlash :
    let share : Asset := .instrument "QJSIM" "SBER/A"
    share.text = "QJSIM/SBER/A" ∧ parse "QJSIM/SBER/A" = .ok share ∧
      (∀ other, parse other = .ok share → other = "QJSIM/SBER/A") ∧
      IsTickerOf "QJSIM¦SBER/A¦5" share ∧ ofTicker? "QJSIM¦SBER/A¦5" = some share := by
  intro share
  have hcodes : ofCodes "QJSIM" "SBER/A" = .ok share := rfl
  obtain ⟨-, -, hunique, hslash, htickers, -⟩ := reads_own_forms
  have hparse : parse "QJSIM/SBER/A" = .ok share :=
    hslash "QJSIM" "SBER/A" share hcodes (by decide) (by decide) (by decide)
  have hticker : IsTickerOf "QJSIM¦SBER/A¦5" share := ⟨_, rfl, .inr ⟨"5", by decide⟩⟩
  refine ⟨rfl, hparse, fun other hother => hunique other _ share hother hparse, hticker, ?_⟩
  exact (htickers "QJSIM" "SBER/A" share hcodes (by decide) (by decide)).2 _ hticker

end TerminalGateway.Asset
