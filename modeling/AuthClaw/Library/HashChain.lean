import Mathlib.Data.List.Induction
import Mathlib.Data.List.Nodup
import Mathlib.Tactic.Common

/-!
# Hash chains

A list of links, each digesting its payload together with the hash of the link
before it.  The digest is an arbitrary function; what a chain commits to is proved
under two assumptions on it, shared by the last sections: it is injective in the
payload and the previous hash together, and it never yields the genesis value.

Main results:

- Theorem {lit}`chained_append`: a chain is a chain followed by a chain from its
  tip.
- Theorem {lit}`eq_of_tip_eq`: two chains from genesis with the same tip are the
  same list of links.
- Theorem {lit}`prefix_eq_of_shared`: a link commits to everything before it.
- Theorems {lit}`not_chained_of_delete`, {lit}`not_chained_of_insert` and
  {lit}`not_chained_of_reseal`: no single edit before a kept link leaves a chain.
- Theorem {lit}`eq_of_perm`: no reordering leaves one either.
- Theorem {lit}`prevs_nodup`: no two links of a chain share a previous hash.
-/

namespace HashChain

variable {P H : Type*}

/-- One link: the sealed payload, the previous hash and the recorded hash. -/
@[ext]
structure Link (P H : Type*) where
  payload : P
  prev : H
  hash : H

/-- The links continue {lit}`start`, and each carries its own digest. -/
def Chained (digest : P → H → H) : H → List (Link P H) → Prop
  | _, [] => True
  | start, l :: ls => l.prev = start ∧ l.hash = digest l.payload l.prev ∧ Chained digest l.hash ls

/-- The hash the next link has to continue. -/
def tip : H → List (Link P H) → H
  | start, [] => start
  | _, l :: ls => tip l.hash ls

variable {digest : P → H → H}

@[simp]
theorem chained_nil (start : H) : Chained digest start [] :=
  trivial

@[simp]
theorem tip_nil (start : H) : tip start ([] : List (Link P H)) = start :=
  rfl

@[simp]
theorem tip_cons (start : H) (l : Link P H) (ls : List (Link P H)) :
    tip start (l :: ls) = tip l.hash ls :=
  rfl

@[simp]
theorem tip_append (start : H) (xs ys : List (Link P H)) :
    tip start (xs ++ ys) = tip (tip start xs) ys := by
  induction xs generalizing start with
  | nil => rfl
  | cons l ls ih => exact ih l.hash

/-- A chain splits at every position, the second part continuing the tip of the
first. -/
theorem chained_append (start : H) (xs ys : List (Link P H)) :
    Chained digest start (xs ++ ys) ↔
      Chained digest start xs ∧ Chained digest (tip start xs) ys := by
  induction xs generalizing start with
  | nil => simp
  | cons l ls ih => simp [Chained, ih, and_assoc]

/-- Appending one link. -/
theorem chained_concat (start : H) (xs : List (Link P H)) (l : Link P H) :
    Chained digest start (xs ++ [l]) ↔
      Chained digest start xs ∧ l.prev = tip start xs ∧ l.hash = digest l.payload l.prev := by
  simp [chained_append, Chained]

/-- Every link of a chain carries its own digest. -/
theorem Chained.digested {start : H} {xs : List (Link P H)} (h : Chained digest start xs)
    {l : Link P H} (hl : l ∈ xs) : l.hash = digest l.payload l.prev := by
  obtain ⟨before, after, rfl⟩ := List.append_of_mem hl
  exact ((chained_append start _ _).mp h).2.2.1

/-! ## What a chain commits to -/

section Commitment

variable {genesis : H}
  (hinj : ∀ p h p' h', digest p h = digest p' h' → p = p' ∧ h = h')
  (hgenesis : ∀ p h, digest p h ≠ genesis)

include hinj in
/-- Sealed links with the same hash are the same link. -/
theorem link_eq_of_hash_eq {l m : Link P H} (hl : l.hash = digest l.payload l.prev)
    (hm : m.hash = digest m.payload m.prev) (h : l.hash = m.hash) : l = m := by
  have hdigest : digest l.payload l.prev = digest m.payload m.prev := by
    rw [← hl, ← hm, h]
  obtain ⟨hpayload, hprev⟩ := hinj _ _ _ _ hdigest
  exact Link.ext hpayload hprev h

include hinj hgenesis in
/-- Two chains from genesis with the same tip are the same list.  The induction
runs from the end, since only the last hash is known to agree. -/
theorem eq_of_tip_eq {xs ys : List (Link P H)} (hxs : Chained digest genesis xs)
    (hys : Chained digest genesis ys) (htip : tip genesis xs = tip genesis ys) : xs = ys := by
  induction xs using List.reverseRecOn generalizing ys with
  | nil =>
      induction ys using List.reverseRecOn with
      | nil => rfl
      | append_singleton ys m _ =>
          obtain ⟨-, -, hm⟩ := (chained_concat genesis ys m).mp hys
          simp only [tip_nil, tip_append, tip_cons] at htip
          exact absurd (htip.trans hm).symm (hgenesis _ _)
  | append_singleton xs l ih =>
      induction ys using List.reverseRecOn with
      | nil =>
          obtain ⟨-, -, hl⟩ := (chained_concat genesis xs l).mp hxs
          simp only [tip_nil, tip_append, tip_cons] at htip
          exact absurd (hl.symm.trans htip) (hgenesis _ _)
      | append_singleton ys m _ =>
          obtain ⟨hxs', hlPrev, hl⟩ := (chained_concat genesis xs l).mp hxs
          obtain ⟨hys', hmPrev, hm⟩ := (chained_concat genesis ys m).mp hys
          simp only [tip_append, tip_cons, tip_nil] at htip
          have hlm : l = m := link_eq_of_hash_eq hinj hl hm htip
          have hxy : xs = ys := by
            apply ih hxs' hys'
            rw [← hlPrev, ← hmPrev, hlm]
          rw [hxy, hlm]

include hinj hgenesis in
/-- A link of a chain commits to every link before it. -/
theorem prefix_eq_of_shared {xs us ys vs : List (Link P H)} {l m : Link P H}
    (hprev : l.prev = m.prev) (hxs : Chained digest genesis (xs ++ l :: us))
    (hys : Chained digest genesis (ys ++ m :: vs)) : xs = ys := by
  obtain ⟨hxs', hl, -⟩ := (chained_append genesis xs _).mp hxs
  obtain ⟨hys', hm, -⟩ := (chained_append genesis ys _).mp hys
  apply eq_of_tip_eq hinj hgenesis hxs' hys'
  rw [← hl, ← hm, hprev]

include hinj hgenesis in
/-- A chain has no two links with the same previous hash. -/
theorem prevs_nodup {xs : List (Link P H)} (h : Chained digest genesis xs) :
    (xs.map Link.prev).Nodup := by
  rw [List.Nodup, List.pairwise_map, List.pairwise_iff_forall_sublist]
  intro l m hsub hprev
  obtain ⟨before, rest, rfl, hl, hm⟩ := List.cons_sublist_iff.mp hsub
  obtain ⟨us, vs, rfl⟩ := List.append_of_mem hl
  obtain ⟨ws, zs, rfl⟩ := List.append_of_mem (List.singleton_sublist.mp hm)
  have hfirst : Chained digest genesis (us ++ l :: (vs ++ ws ++ m :: zs)) := by
    simpa using h
  have hsecond : Chained digest genesis ((us ++ l :: (vs ++ ws)) ++ m :: zs) := by
    simpa using h
  have hshort := prefix_eq_of_shared hinj hgenesis hprev hfirst hsecond
  simpa using congrArg List.length hshort

/-! ## Edits of a chain -/

include hinj hgenesis in
/-- Deleting a link that is followed by a kept link breaks the chain. -/
theorem not_chained_of_delete {xs us : List (Link P H)} {x l : Link P H}
    (h : Chained digest genesis (xs ++ x :: l :: us)) :
    ¬ Chained digest genesis (xs ++ l :: us) := by
  intro hedit
  have hkept : Chained digest genesis ((xs ++ [x]) ++ l :: us) := by
    simpa using h
  have hsame := prefix_eq_of_shared hinj hgenesis rfl hkept hedit
  simpa using congrArg List.length hsame

include hinj hgenesis in
/-- Inserting a link before a kept link breaks the chain. -/
theorem not_chained_of_insert {xs us : List (Link P H)} {x l : Link P H}
    (h : Chained digest genesis (xs ++ l :: us)) :
    ¬ Chained digest genesis (xs ++ x :: l :: us) := by
  intro hedit
  exact not_chained_of_delete hinj hgenesis hedit h

include hinj hgenesis in
/-- A reordering of a chain that is still a chain is the chain itself. -/
theorem eq_of_perm {xs ys : List (Link P H)} (hxs : Chained digest genesis xs)
    (hys : Chained digest genesis ys) (hperm : xs.Perm ys) : xs = ys := by
  induction ys using List.reverseRecOn with
  | nil => exact List.Perm.eq_nil hperm
  | append_singleton ys m _ =>
      have hm : m ∈ xs := hperm.mem_iff.mpr (by simp)
      obtain ⟨before, after, rfl⟩ := List.append_of_mem hm
      have hsame := prefix_eq_of_shared hinj hgenesis rfl hxs hys
      have hlength := hperm.length_eq
      subst hsame
      have hafter : after = [] := by
        simpa using hlength
      rw [hafter]

include hinj in
/-- Changing what a link seals without changing its hash breaks the chain. -/
theorem not_chained_of_reseal {start : H} {xs us : List (Link P H)} {l l' : Link P H}
    (h : Chained digest start (xs ++ l :: us)) (hhash : l'.hash = l.hash) (hne : l' ≠ l) :
    ¬ Chained digest start (xs ++ l' :: us) := by
  intro hedit
  have hl := h.digested (l := l) (by simp)
  have hl' := hedit.digested (l := l') (by simp)
  exact hne (link_eq_of_hash_eq hinj hl' hl hhash)

end Commitment

end HashChain
