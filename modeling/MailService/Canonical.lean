import MailService.Lib.JsonPaths
import MailService.Lib.JsonSpelling
import MailService.Preparation
/-!
# Canonical JSON objects

`canonicalJSONObject` is applied to the variables of a template when a command is normalised,
when its template is checked, when its payload is encoded and again at delivery. What it
returns it returns again, and it depends on the object that a text denotes and on nothing
else of the text.
-/
open Text Checks

namespace MailService

variable {raw field canonical : String} {maximum depth : Nat} {v : Json.Value}

theorem isObject_canon (v : Json.Value) : (Json.canon Json.goOrder v).isObject = v.isObject := by
  cases v <;> rfl

/-- What was canonicalised is its own canonical text. -/
theorem canonicalJSONObject_idem
    (h : canonicalJSONObject raw maximum depth field = .ok canonical) (field' : String) :
    canonicalJSONObject canonical maximum depth field' = .ok canonical := by
  obtain ⟨-, v, hv, hnesting, hobject, hdepth, hlen, rfl⟩ := canonicalJSONObject_eq_ok.1 h
  have hwf := @Json.wf_canon Json.goOrder v (Json.wf_of_parse_eq hv)
  refine canonicalJSONObject_eq_ok.2
    ⟨⟨len_marshal_pos .go hwf, hlen⟩, Json.canon Json.goOrder v, Json.parse_marshal .go hwf,
    (Json.depth_canon_le v).trans hnesting, ?_⟩
  rw [Json.canon_canon]
  exact ⟨hobject, hdepth, hlen, rfl⟩

/-- The result stands for what the text denotes. -/
theorem canonicalJSONObject_eq_iff
    {raw₁ raw₂ field₁ field₂ canonical₁ canonical₂ : String} {v₁ v₂ : Json.Value}
    (hv₁ : Json.parse raw₁ = some v₁) (hv₂ : Json.parse raw₂ = some v₂)
    (h₁ : canonicalJSONObject raw₁ maximum depth field₁ = .ok canonical₁)
    (h₂ : canonicalJSONObject raw₂ maximum depth field₂ = .ok canonical₂) :
    canonical₁ = canonical₂ ↔ Json.Same v₁ v₂ := by
  have hparse₁ := canonicalJSONObject_parse h₁
  have hparse₂ := canonicalJSONObject_parse h₂
  rw [hv₁] at hparse₁
  rw [hv₂] at hparse₂
  rw [← @Json.canon_eq_iff Json.goOrder]
  constructor
  · rintro rfl
    exact Option.some.inj (hparse₁.symm.trans hparse₂)
  · intro hsame
    obtain ⟨-, w₁, hw₁, -, -, -, -, rfl⟩ := canonicalJSONObject_eq_ok.1 h₁
    obtain ⟨-, w₂, hw₂, -, -, -, -, rfl⟩ := canonicalJSONObject_eq_ok.1 h₂
    obtain rfl : w₁ = v₁ := Option.some.inj (hw₁.symm.trans hv₁)
    obtain rfl : w₂ = v₂ := Option.some.inj (hw₂.symm.trans hv₂)
    rw [hsame]

/-- An object that can be read is refused for its depth exactly if that of what it denotes is above
the limit. -/
theorem canonicalJSONObject_depth_iff (hlen : len raw ≠ 0 ∧ len raw ≤ maximum) (hv : Json.parse raw = some v)
    (hnesting : Json.depth v ≤ Json.maxNestingDepth) (hobject : v.isObject = true) :
    canonicalJSONObject raw maximum depth field =
        .error (.invalidSubmission (field ++ " must be an object within the depth limit")) ↔
      depth < Json.depth (Json.canon Json.goOrder v) := by
  rw [canonicalJSONObject, check_bind hlen, hv]
  dsimp only
  rw [check_bind hnesting, check_bind_eq_error, isObject_canon, hobject]
  constructor
  · rintro (⟨hdeep, -⟩ | ⟨-, hlater⟩)
    · exact not_le.1 fun hle => hdeep ⟨rfl, hle⟩
    · -- the error of the last check is another one
      rcases check_bind_eq_error.1 hlater with ⟨-, heq⟩ | ⟨-, hok⟩
      · have htexts := String.append_right_inj field |>.1 (Error.invalidSubmission.inj heq)
        exact absurd htexts (by decide)
      · cases hok
  · intro hdeep
    exact .inl ⟨fun hle => absurd hle.2 (not_le.2 hdeep), rfl⟩

/-- Canonicalisation is stable: its results are fixed, equal exactly for texts of one object however
it is spelled, and the depth it limits is the largest number of containers inside each other. -/
theorem canonicalJSONObject_stable (maximum depth : Nat) :
    (∀ raw field canonical, canonicalJSONObject raw maximum depth field = .ok canonical →
      ∀ field', canonicalJSONObject canonical maximum depth field' = .ok canonical) ∧
    (∀ raw₁ raw₂ field₁ field₂ canonical₁ canonical₂ v₁ v₂, Json.parse raw₁ = some v₁ →
      Json.parse raw₂ = some v₂ →
      canonicalJSONObject raw₁ maximum depth field₁ = .ok canonical₁ →
      canonicalJSONObject raw₂ maximum depth field₂ = .ok canonical₂ →
      (canonical₁ = canonical₂ ↔ Json.Same v₁ v₂)) ∧
    (∀ v raw, Json.Spelled v raw → Json.parse raw = some v) ∧
    (∀ v, IsGreatest {n | Json.Nests v n} (Json.depth (Json.canon Json.goOrder v))) ∧
    ∀ raw field v, len raw ≠ 0 ∧ len raw ≤ maximum → Json.parse raw = some v →
      Json.depth v ≤ Json.maxNestingDepth →
      v.isObject = true →
      (canonicalJSONObject raw maximum depth field =
          .error (.invalidSubmission (field ++ " must be an object within the depth limit")) ↔
        ∃ n, depth < n ∧ Json.Nests v n) := by
  refine ⟨fun raw field canonical h => canonicalJSONObject_idem h,
      fun raw₁ raw₂ field₁ field₂ canonical₁ canonical₂ v₁ v₂ hv₁ hv₂ h₁ h₂ =>
    canonicalJSONObject_eq_iff hv₁ hv₂ h₁ h₂, fun v raw => Json.parse_spelled, Json.isGreatest_depth,
    fun raw field v hlen hv hnesting hobject => ?_⟩
  rw [canonicalJSONObject_depth_iff hlen hv hnesting hobject]
  have hgreatest := @Json.isGreatest_depth Json.goOrder _ _ v
  constructor
  · exact fun hdeep => ⟨_, hdeep, hgreatest.1⟩
  · rintro ⟨n, hdeep, hn⟩
    exact hdeep.trans_le (hgreatest.2 hn)

/-- Two texts of one object: with blanks, another order of its members and an escape. -/
theorem canonicalJSONObject_stable_spelled : ∃ raw₁ raw₂ canonical, raw₁ ≠ raw₂ ∧
    canonicalJSONObject raw₁ 64 8 "variables" = .ok canonical ∧
    canonicalJSONObject raw₂ 64 8 "variables" = .ok canonical ∧
    canonicalJSONObject canonical 64 8 "variables" = .ok canonical := by
  have h₁ : canonicalJSONObject "\x7b\"b\":[1],\"a\":\"<\"\x7d" 64 8 "variables" =
      .ok "\x7b\"a\":\"\\u003c\",\"b\":[1]\x7d" := by decide +kernel
  have h₂ : canonicalJSONObject " \x7b\"a\" : \"\\u003C\", \"b\":[ 1 ]\x7d " 64 8 "variables" =
      .ok "\x7b\"a\":\"\\u003c\",\"b\":[1]\x7d" := by decide +kernel
  exact ⟨_, _, _, by decide, h₁, h₂, (canonicalJSONObject_stable 64 8).1 _ _ _ h₁ "variables"⟩

end MailService
