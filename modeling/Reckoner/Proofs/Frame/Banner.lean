import Reckoner.Proofs.Frame.Titles

/-!
# Width of the banner

The banner has the same number of signs on both sides of its text, so that the odd column of an
odd room is left out: the banner of an odd text is one column narrower than the rules below it.
Titles have the odd column on their right, and the footer has no text to make room for. The
program's own version is of the odd kind.

* `width_bannerText`, `width_banner`: the columns of the banner.
* `width_footer`, `width_header_of_ascii`: the rules that it stands above.
* `banner_fills_rule_iff`: when the banner is as wide as they are.
* `banner_too_narrow`: the program's own banner is not.
-/

namespace Reckoner.Frame

open Text

/-! ## The footer -/

theorem width_footer : width (footer false) = totalWidth := by
  obtain ⟨hsign, hcolumns, _⟩ := freestanding_of_mem_frame '═' (by decide)
  have hwidth := width_freestanding_append (freestanding_of_mem_replicate hsign totalWidth) []
  rw [List.append_nil, columnSum_replicate hcolumns] at hwidth
  exact hwidth

/-! ## Titles of ASCII characters -/

theorem steady_of_ascii {c : Char} (h : c.toNat < 128) : Steady c := by
  have hall : ∀ n < 128, Steady (Char.ofNat n) := by
    decide +kernel
  have hsteady := hall c.toNat h
  rwa [Char.ofNat_toNat] at hsteady

theorem width_header_of_ascii {title : String} (h : ∀ c ∈ title.toList, c.toNat < 128)
    (hfits : width (enclose title.toList) ≤ totalWidth) :
    width (header false title) = totalWidth := by
  have hupper : width (uppercase title.toList) = width title.toList :=
    width_uppercase fun c hc => steady_of_ascii (h c hc)
  rw [width_enclose] at hfits
  rw [width_header, room, uppercase_enclose, width_enclose, width_enclose, hupper]
  omega

/-! ## The banner -/

theorem freestanding_of_mem_name : ∀ c ∈ "ABACUS v".toList, Freestanding c := by
  have hletters : ∀ c ∈ "ABACUS v".toList,
      (c == ' ' || CodeRange.covers narrowLetters c) = true := by
    rw [← List.all_eq_true]
    decide
  intro c hc
  have hletter := hletters c hc
  rw [Bool.or_eq_true, beq_iff_eq] at hletter
  rcases hletter with rfl | hletter
  · exact (freestanding_of_mem_frame ' ' (by decide)).1
  · exact (freestanding_of_narrow hletter).1

/-- The name and the brackets take twelve columns, whatever the version begins with. -/
theorem width_bannerText (version : String) :
    width (bannerText version) = width version.toList + 12 := by
  have hname : columnSum "ABACUS v".toList = 8 := by
    decide
  rw [bannerText, width_enclose, width_freestanding_append freestanding_of_mem_name, hname]
  omega

theorem banner_false (version : String) :
    banner false version =
      List.replicate (room (bannerText version) / 2) '═' ++ bannerText version ++
        List.replicate (room (bannerText version) / 2) '═' := rfl

theorem width_banner (version : String) :
    width (banner false version) =
      width (bannerText version) + 2 * (room (bannerText version) / 2) := by
  obtain ⟨hsign, hcolumns, _⟩ := freestanding_of_mem_frame '═' (by decide)
  have hsigns := freestanding_of_mem_replicate hsign
  rw [banner_false, List.append_assoc, width_freestanding_append (hsigns _),
    columnSum_replicate hcolumns]
  have hright : width (bannerText version ++
      List.replicate (room (bannerText version) / 2) '═') =
        width (bannerText version) + room (bannerText version) / 2 := by
    rw [bannerText, width_enclose_append _ (hsigns _), width_enclose,
      columnSum_replicate hcolumns]
  rw [hright]
  omega

theorem banner_of_overlong {version : String} (h : totalWidth < width (bannerText version)) :
    banner false version = bannerText version := by
  have hroom : room (bannerText version) = 0 := Nat.sub_eq_zero_of_le (Nat.le_of_lt h)
  rw [banner_false, hroom]
  simp

/-- The banner of a version that fits is as wide as the footer and the titles if and only if its
text has an even number of columns; otherwise it is one column narrower. -/
theorem banner_fills_rule_iff (version : String) :
    let text := bannerText version
    let line := banner false version
    (width text ≤ totalWidth →
      (width line = totalWidth ↔ 2 ∣ width version.toList) ∧
      (¬ 2 ∣ width version.toList → width line + 1 = totalWidth)) ∧
    (totalWidth < width text → line = text) ∧
    width (footer false) = totalWidth ∧
    (∀ title : String, (∀ c ∈ title.toList, c.toNat < 128) →
      width (enclose title.toList) ≤ totalWidth → width (header false title) = totalWidth) ∧
    (∀ console : Console,
      (Page.banner false false 0).flatMap console.line = banner false Frame.version ++ ['\n'] ∧
      (Page.footer false 0).flatMap console.line = footer false ++ ['\n']) := by
  intro text line
  have htext : width text = width version.toList + 12 := width_bannerText version
  have hline : width line = width text + 2 * ((totalWidth - width text) / 2) :=
    width_banner version
  refine ⟨fun hfits => ⟨?_, ?_⟩, banner_of_overlong, width_footer, ?_, ?_⟩
  · unfold totalWidth at *
    omega
  · unfold totalWidth at *
    omega
  · intro title hascii hfits
    exact width_header_of_ascii hascii hfits
  · intro console
    have hprinted : ∀ line : List Char,
        [Page.printed line].flatMap console.line = line ++ ['\n'] := by
      intro line
      rw [List.flatMap_singleton, Page.printed, Console.line_print, String.toList_ofList]
    exact ⟨hprinted _, hprinted _⟩

/-- A version that leaves no room. -/
def overlongVersion : String := String.ofList (List.replicate 53 '1')

theorem banner_fills_rule_evenVersion :
    width (bannerText "0.10.0") ≤ totalWidth ∧ width (banner false "0.10.0") = totalWidth ∧
    width (bannerText "日本.1.0") ≤ totalWidth ∧ width (banner false "日本.1.0") = totalWidth ∧
    width (bannerText "0.9.0") ≤ totalWidth ∧ width (banner false "0.9.0") + 1 = totalWidth ∧
    totalWidth < width (bannerText overlongVersion) ∧
    banner false overlongVersion = bannerText overlongVersion ∧
    width (enclose "Done".toList) ≤ totalWidth ∧ width (header false "Done") = totalWidth := by
  have heven : width (bannerText "0.10.0") ≤ totalWidth := by decide +kernel
  have hwide : width (bannerText "日本.1.0") ≤ totalWidth := by decide +kernel
  have hodd : width (bannerText "0.9.0") ≤ totalWidth := by decide +kernel
  have hlong : totalWidth < width (bannerText overlongVersion) := by decide +kernel
  have htitle : width (enclose "Done".toList) ≤ totalWidth := by decide +kernel
  refine ⟨heven, ?_, hwide, ?_, hodd, ?_, hlong, ?_, htitle, ?_⟩
  · exact ((banner_fills_rule_iff "0.10.0").1 heven).1.mpr (by decide +kernel)
  · exact ((banner_fills_rule_iff "日本.1.0").1 hwide).1.mpr (by decide +kernel)
  · exact ((banner_fills_rule_iff "0.9.0").1 hodd).2 (by decide +kernel)
  · exact (banner_fills_rule_iff overlongVersion).2.1 hlong
  · exact (banner_fills_rule_iff "0.10.0").2.2.2.1 "Done" (by simp) htitle

/-- The text of the program's own banner has 17 columns, and so the banner is one column narrower
than the footer, however its columns are counted. -/
theorem banner_too_narrow :
    width (bannerText Frame.version) ≤ totalWidth ∧
    width (banner false Frame.version) + 1 = totalWidth ∧
    columnSum (banner false Frame.version) + 1 = totalWidth ∧
    width (footer false) = totalWidth := by
  refine ⟨by decide +kernel, ?_, by decide +kernel, width_footer⟩
  rw [width_banner]
  decide +kernel

end Reckoner.Frame
