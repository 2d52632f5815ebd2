import RcsMiddleware.Source.Signing
import RcsMiddleware.Support.Framing
import RcsMiddleware.Support.Text

/-!
# Client — Canonical

The text a signature is computed from.  Its parts are joined by newlines and nothing is escaped,
and the path may hold newlines itself.

* `canonicalString_eq_iff`: the text determines its parts, so two requests with one signature are
  the same request, or their bodies collide under MD5, or their texts collide under HMAC.

The hash functions and `str.upper` are any functions with what their documentation says: a hex
digest has hexadecimal digits only, and upper-casing makes no newline.
-/

namespace Rcs

open Support Support.Text

/-- The arguments of `build_canonical_string`. -/
structure SigningParts where
  method : String
  path : String
  body : ByteArray
  nonce : String
  timestamp : String

namespace SigningParts

variable (parts : SigningParts) (strategy : HmacSha256Strategy)

def canonicalString : String :=
  strategy.buildCanonicalString parts.method parts.path parts.body parts.nonce parts.timestamp

def signature : String :=
  strategy.buildSign parts.method parts.path parts.body parts.nonce parts.timestamp

/-- No newline outside the path and the body. -/
def OneLine : Prop :=
  '\n' ∉ parts.timestamp.toList ∧ '\n' ∉ parts.nonce.toList ∧ '\n' ∉ parts.method.toList

instance : Decidable parts.OneLine := inferInstanceAs (Decidable (_ ∧ _ ∧ _))

/-- The lines in front of the path. -/
def front : List (List Char) :=
  [parts.timestamp.toList, parts.nonce.toList, (strategy.upper parts.method).toList]

/-- The line behind the path. -/
def back : List (List Char) := [(strategy.md5 parts.body).toList]

/-- The parts agree in all that is written out. -/
def SameLines (other : SigningParts) : Prop :=
  parts.timestamp = other.timestamp ∧ parts.nonce = other.nonce ∧
    strategy.upper parts.method = strategy.upper other.method ∧ parts.path = other.path

end SigningParts

namespace HmacSha256Strategy

variable (strategy : HmacSha256Strategy)

/-- Two bodies with one digest. -/
def BodyCollision (body body' : ByteArray) : Prop :=
  body ≠ body' ∧ strategy.md5 body = strategy.md5 body'

/-- Two messages with one HMAC under the secret of the strategy. -/
def MessageCollision (message message' : String) : Prop :=
  message ≠ message' ∧
    strategy.hmacSha256 strategy.appSecret message = strategy.hmacSha256 strategy.appSecret message'

end HmacSha256Strategy

section Canonical

variable {strategy : HmacSha256Strategy}

theorem canonicalString_toList (parts : SigningParts) :
    (parts.canonicalString strategy).toList =
      Framing.frame '\n' (parts.front strategy) parts.path.toList (parts.back strategy) := by
  have hnewline : "\n".toList = ['\n'] := by rfl
  simp [SigningParts.canonicalString, HmacSha256Strategy.buildCanonicalString, Framing.frame,
    SigningParts.front, SigningParts.back, hnewline]

theorem front_clean (hupper : ∀ s, '\n' ∈ (strategy.upper s).toList → '\n' ∈ s.toList)
    {parts : SigningParts} (h : parts.OneLine) : Framing.Clean '\n' (parts.front strategy) := by
  obtain ⟨htimestamp, hnonce, hmethod⟩ := h
  intro field hfield
  simp only [SigningParts.front, List.mem_cons, List.not_mem_nil, or_false] at hfield
  rcases hfield with rfl | rfl | rfl
  · exact htimestamp
  · exact hnonce
  · exact fun hm => hmethod (hupper _ hm)

theorem back_clean
    (hmd5 : ∀ body, ∀ c ∈ (strategy.md5 body).toList, (hexDigit? c).isSome = true)
    (parts : SigningParts) : Framing.Clean '\n' (parts.back strategy) := by
  intro field hfield hm
  obtain rfl := List.mem_singleton.mp hfield
  exact absurd (hmd5 parts.body '\n' hm) (by decide)

/-- Requests whose canonical strings differ have one signature only by a collision of the HMAC. -/
theorem signature_eq {parts other : SigningParts}
    (h : parts.signature strategy = other.signature strategy) :
    parts.canonicalString strategy = other.canonicalString strategy ∨
      strategy.MessageCollision (parts.canonicalString strategy)
        (other.canonicalString strategy) := by
  by_cases hne : parts.canonicalString strategy = other.canonicalString strategy
  · exact .inl hne
  · exact .inr ⟨hne, h⟩

/-- The canonical string determines the timestamp, the nonce, the upper-cased method, the path and
the digest of the body; so one signature of two requests means the same request, two bodies with
one MD5 digest, or two texts with one HMAC. -/
theorem canonicalString_eq_iff (strategy : HmacSha256Strategy)
    (hupper : ∀ s, '\n' ∈ (strategy.upper s).toList → '\n' ∈ s.toList)
    (hmd5 : ∀ body, ∀ c ∈ (strategy.md5 body).toList, (hexDigit? c).isSome = true)
    (parts other : SigningParts) (hparts : parts.OneLine) (hother : other.OneLine) :
    (parts.canonicalString strategy = other.canonicalString strategy ↔
      parts.SameLines strategy other ∧ strategy.md5 parts.body = strategy.md5 other.body) ∧
    (parts.signature strategy = other.signature strategy →
      (parts.SameLines strategy other ∧ parts.body = other.body) ∨
        strategy.BodyCollision parts.body other.body ∨
        strategy.MessageCollision (parts.canonicalString strategy)
          (other.canonicalString strategy)) := by
  have hiff : parts.canonicalString strategy = other.canonicalString strategy ↔
      parts.SameLines strategy other ∧ strategy.md5 parts.body = strategy.md5 other.body := by
    have hfront : (parts.front strategy).length = (other.front strategy).length := rfl
    have hback : (parts.back strategy).length = (other.back strategy).length := rfl
    rw [← String.toList_inj, canonicalString_toList, canonicalString_toList,
      Framing.frame_inj hfront hback (front_clean hupper hparts) (front_clean hupper hother)
        (back_clean hmd5 parts) (back_clean hmd5 other)]
    simp only [SigningParts.front, SigningParts.back, SigningParts.SameLines, List.cons.injEq,
      and_true, String.toList_inj, and_assoc]
  refine ⟨hiff, fun hsignature => ?_⟩
  rcases signature_eq hsignature with hsame | hcollision
  · obtain ⟨hlines, hdigest⟩ := hiff.mp hsame
    by_cases hbody : parts.body = other.body
    · exact .inl ⟨hlines, hbody⟩
    · exact .inr (.inl ⟨hbody, hdigest⟩)
  · exact .inr (.inr hcollision)

end Canonical

/-! ### Two bodies under one timestamp and nonce -/

/-- The functions of the standard library, as far as the two requests below need them. -/
def testStrategy : HmacSha256Strategy where
  appKey := "ak"
  appSecret := "secret"
  apiVersion := "1.0"
  upper := String.toUpper
  md5 body :=
    if body.size = 2 then "99914b932bd37a50b983c5e7c90ae93b"
    else "ac3ef48caa08fa3ed5e025da69edc645"
  hmacSha256 _ message :=
    if message = "2026-04-25T10:00:00.000000Z\naaaa\nPOST\n/p\n" ++
        "99914b932bd37a50b983c5e7c90ae93b" then
      "233792056f925f6b201b26d7f7a8fcca2af5caf7127606888e2a531f8810411c"
    else "77e35143bfcae1a4822eda75ffaa8a83ca0adb131a2aecdbfc782e5f01e9453c"

/-- A request with this body. -/
def testParts (body : String) : SigningParts :=
  ⟨"POST", "/p", body.toUTF8, "aaaa", "2026-04-25T10:00:00.000000Z"⟩

theorem toUpper_newline {c : Char} (h : c.toUpper = '\n') : c = '\n' := by
  unfold Char.toUpper at h
  split at h
  · next hrange =>
      have hlow := UInt32.le_iff_toNat_le.mp hrange.1
      have hhigh := UInt32.le_iff_toNat_le.mp hrange.2
      have hval := congrArg (fun d => d.val.toNat) h
      simp [UInt32.toNat_add] at hlow hhigh hval
      omega
  · exact h

theorem newline_of_toUpper {s : String} (h : '\n' ∈ s.toUpper.toList) : '\n' ∈ s.toList := by
  rw [String.toUpper, String.toList_map, List.mem_map] at h
  obtain ⟨c, hc, hupper⟩ := h
  exact toUpper_newline hupper ▸ hc

theorem testStrategy_md5 (body : ByteArray) :
    ∀ c ∈ (testStrategy.md5 body).toList, (hexDigit? c).isSome = true := by
  simp only [testStrategy]
  split
  · exact List.all_eq_true.mp (by decide)
  · exact List.all_eq_true.mp (by decide)

theorem canonicalString_ne_of_bodies :
    (testParts "\x7b\x7d").canonicalString testStrategy ≠
      (testParts "\x7b\"x\":1\x7d").canonicalString testStrategy := by
  intro h
  obtain ⟨-, hdigests⟩ := (canonicalString_eq_iff testStrategy (fun _ => newline_of_toUpper)
    testStrategy_md5 (testParts "\x7b\x7d") (testParts "\x7b\"x\":1\x7d") (by decide)
    (by decide)).1.mp h
  exact absurd hdigests (by decide)

end Rcs
