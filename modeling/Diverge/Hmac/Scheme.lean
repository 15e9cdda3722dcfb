import Mathlib.Data.List.Basic
import Mathlib.Data.List.Induction

/-! Chained message authentication. A digest is the key of the next link, so whoever holds the last
digest can prolong a chain and nobody can shorten it. In the symbolic reading digests are free terms
over one secret key, and what an adversary can derive is a closure. -/
namespace Diverge.Hmac

/-- What a program uses of keyed hashing: the digest of a text under a key, the digest's written
form, and the length of a key in bytes. -/
class Scheme (κ : Type) (σ : outParam Type) where
  computeHMAC : κ → String → κ
  encodeHex : κ → σ
  decodeHex : σ → Option κ
  keyLen : κ → ℕ
  decode_encode : ∀ k, decodeHex (encodeHex k) = some k

section
variable {κ σ : Type} [Scheme κ σ]

def chain (k : κ) (texts : List String) : κ := texts.foldl Scheme.computeHMAC k

@[simp] lemma chain_nil (k : κ) : chain k [] = k := rfl

@[simp] lemma chain_cons (k : κ) (t : String) (ts : List String) :
    chain k (t :: ts) = chain (Scheme.computeHMAC k t) ts := rfl

@[simp] lemma chain_append (k : κ) (ts us : List String) :
    chain k (ts ++ us) = chain (chain k ts) us := List.foldl_append

lemma encodeHex_injective : Function.Injective (Scheme.encodeHex : κ → σ) := by
  intro k l h
  have hd := congrArg (Scheme.decodeHex (κ := κ)) h
  rw [Scheme.decode_encode,Scheme.decode_encode] at hd
  exact Option.some.inj hd

end

/-- Symbolic keys: one secret, the public ones, and digests as free terms. -/
inductive Key
  | secret
  | pub (bytes : String)
  | mac (key : Key) (data : String)
  deriving DecidableEq

/-- The secret has the length that issuers ask for, a digest that of SHA-256. -/
instance : Scheme Key Key where
  computeHMAC := .mac
  encodeHex := id
  decodeHex := some
  keyLen
    | .pub bytes => bytes.utf8ByteSize
    | _ => 32
  decode_encode _ := rfl

namespace Key

/-- A key written out as a term. -/
def text : Key → String
  | .secret => "k"
  | .pub bytes => bytes
  | .mac key data => "h(" ++ key.text ++ "," ++ data ++ ")"

lemma chain_concat (k : Key) (ts : List String) (t : String) : chain k (ts ++ [t]) = .mac (chain k ts) t := by
  rw [chain_append]
  rfl

lemma chain_ne_secret (k : Key) (ts : List String) (h : ts ≠ []) : chain k ts ≠ .secret := by
  obtain ⟨us,u,rfl⟩ := List.eq_nil_or_concat' ts |>.resolve_left h
  rw [chain_concat]
  exact Key.noConfusion

theorem chain_secret_injective (ts us : List String) (h : chain Key.secret ts = chain Key.secret us) :
    ts = us := by
  induction ts using List.reverseRecOn generalizing us with
  | nil =>
    by_contra hu
    exact chain_ne_secret .secret us (Ne.symm hu) h.symm
  | append_singleton ts t ih =>
    rcases List.eq_nil_or_concat' us with rfl | ⟨us,u,rfl⟩
    · exact absurd h (chain_ne_secret .secret _ (by simp))
    · rw [chain_concat,chain_concat] at h
      obtain ⟨hk,rfl⟩ := Key.mac.inj h
      rw [ih us hk]

/-- What can be computed from public keys and the last digests of the given chains, each keyed by the
secret, with texts of the adversary's choice. -/
inductive Derivable (known : Set (List String)) : Key → Prop
  | pub (bytes : String) : Derivable known (.pub bytes)
  | digest {ts : List String} (h : ts ∈ known) : Derivable known (chain .secret ts)
  | mac {k : Key} (data : String) (h : Derivable known k) : Derivable known (.mac k data)

/-- A derivable digest of a chain from the secret prolongs one of the known chains. -/
theorem Derivable.exists_known_prefix {known : Set (List String)} {k : Key}
    (h : Derivable known k) : ∀ ts, k = chain .secret ts → ∃ us ∈ known, us <+: ts := by
  induction h with
  | pub bytes =>
    intro ts he
    rcases List.eq_nil_or_concat' ts with rfl | ⟨us,u,rfl⟩
    · exact Key.noConfusion he
    · rw [chain_concat] at he
      exact Key.noConfusion he
  | @digest us hu =>
    intro ts he
    exact ⟨us,hu,chain_secret_injective us ts he ▸ List.prefix_rfl⟩
  | @mac k data _ ih =>
    intro ts he
    rcases List.eq_nil_or_concat' ts with rfl | ⟨vs,v,rfl⟩
    · exact Key.noConfusion he
    · rw [chain_concat] at he
      obtain ⟨us,hu,hp⟩ := ih vs (Key.mac.inj he).1
      exact ⟨us,hu,hp.trans (List.prefix_append vs [v])⟩

end Key
end Diverge.Hmac
