import Mathlib
import GpuPlacement.Topology

/-!
# The links of a device list

`addLinks` (Topology.lean) makes the links of a topology one at a time and in place. What it
leaves is read through `linksBetween`, the links from one position to another:

> `linked_addLinks` — between two positions stand the types of all entries that join them,
> in either direction and in file order.

The right side is the same both ways, which is why the two ends of every pair agree. A table of
links keeps its peers in ascending order; that invariant is what makes a look-up find all links
that were appended.
-/

set_option autoImplicit false

namespace GpuPlacement

/-! ## Tables of links -/

namespace LinkTable

/-- The peers of a table ascend. -/
def Ascending (t : LinkTable) : Prop := t.entries.Pairwise fun e f => e.1 < f.1

theorem lookup_cons_eq {α : Type} (q k : Nat) (v : α) (entries : List (Nat × α)) :
    ((k, v) :: entries).lookup q = if q = k then some v else entries.lookup q := by
  by_cases h : q = k
  · rw [if_pos h, List.lookup_cons, beq_iff_eq.mpr h]
  · rw [if_neg h, List.lookup_cons, beq_eq_false_iff_ne.mpr h]

theorem lookup_eq_none_of_lt {entries : List (Nat × List Link)} {q : Nat}
    (h : ∀ e ∈ entries, q < e.1) : entries.lookup q = none := by
  rw [List.lookup_eq_none_iff]
  intro e he
  exact bne_iff_ne.mpr (Nat.ne_of_lt (h e he))

theorem key_of_mem_insertInto {peer : Nat} {links : List Link} {e : Nat × List Link} :
    ∀ {entries : List (Nat × List Link)}, e ∈ insertInto peer links entries →
      e.1 = peer ∨ ∃ f ∈ entries, f.1 = e.1 := by
  intro entries
  induction entries with
  | nil =>
    intro h
    exact Or.inl (by rw [List.mem_singleton.mp h])
  | cons f entries ih =>
    obtain ⟨p, old⟩ := f
    intro h
    rw [insertInto] at h
    split at h
    · rcases List.mem_cons.mp h with rfl | h
      · exact Or.inl rfl
      · exact Or.inr ⟨e, h, rfl⟩
    split at h
    · rcases List.mem_cons.mp h with rfl | h
      · exact Or.inr ⟨(p, old), List.mem_cons_self, rfl⟩
      · exact Or.inr ⟨e, List.mem_cons_of_mem _ h, rfl⟩
    · rcases List.mem_cons.mp h with rfl | h
      · exact Or.inr ⟨(p, old), List.mem_cons_self, rfl⟩
      · rcases ih h with he | ⟨f, hf, he⟩
        · exact Or.inl he
        · exact Or.inr ⟨f, List.mem_cons_of_mem _ hf, he⟩

theorem insertInto_ascending {peer : Nat} {links : List Link} :
    ∀ {entries : List (Nat × List Link)}, entries.Pairwise (fun e f => e.1 < f.1) →
      (insertInto peer links entries).Pairwise fun e f => e.1 < f.1 := by
  intro entries
  induction entries with
  | nil => intro _; exact List.pairwise_singleton _ _
  | cons f entries ih =>
    obtain ⟨p, old⟩ := f
    intro h
    obtain ⟨hp, hrest⟩ := List.pairwise_cons.mp h
    rw [insertInto]
    split
    · rename_i hlt
      refine List.pairwise_cons.mpr ⟨fun e he => ?_, h⟩
      rcases List.mem_cons.mp he with rfl | he
      · exact hlt
      · exact Nat.lt_trans hlt (hp e he)
    split
    · exact List.pairwise_cons.mpr ⟨fun e he => hp e he, hrest⟩
    · refine List.pairwise_cons.mpr ⟨fun e he => ?_, ih hrest⟩
      rcases key_of_mem_insertInto he with hk | ⟨f, hf, hk⟩
      · rw [hk]
        show p < peer
        omega
      · rw [← hk]
        exact hp f hf

theorem lookup_insertInto {peer : Nat} {links : List Link} (q : Nat) :
    ∀ {entries : List (Nat × List Link)}, entries.Pairwise (fun e f => e.1 < f.1) →
      (insertInto peer links entries).lookup q
        = if q = peer then some ((entries.lookup peer).getD [] ++ links)
          else entries.lookup q := by
  intro entries
  induction entries with
  | nil =>
    intro _
    rw [insertInto, lookup_cons_eq]
    rfl
  | cons f entries ih =>
    obtain ⟨p, old⟩ := f
    intro h
    obtain ⟨hp, hrest⟩ := List.pairwise_cons.mp h
    rw [insertInto]
    split
    · rename_i hlt
      have hnone : ((p, old) :: entries).lookup peer = none := by
        refine lookup_eq_none_of_lt fun e he => ?_
        rcases List.mem_cons.mp he with rfl | he
        · exact hlt
        · exact Nat.lt_trans hlt (hp e he)
      rw [lookup_cons_eq, hnone]
      rfl
    split
    · rename_i _ heq
      rw [heq, lookup_cons_eq, lookup_cons_eq, if_pos rfl, lookup_cons_eq]
      by_cases hq : q = p
      · rw [if_pos hq, if_pos hq]
        rfl
      · rw [if_neg hq, if_neg hq, if_neg hq]
    · rename_i _ hne
      rw [lookup_cons_eq, ih hrest, lookup_cons_eq, if_neg hne, lookup_cons_eq]
      by_cases hq : q = p
      · have hqp : q ≠ peer := fun h => hne (h.symm.trans hq)
        rw [if_pos hq, if_neg hqp, if_pos hq]
      · rw [if_neg hq, if_neg hq]

theorem ascending_append {t : LinkTable} (h : t.Ascending) (peer : Nat) (links : List Link) :
    (t.append peer links).Ascending :=
  insertInto_ascending h

/-- Appending links to a peer changes the links to no other one. -/
theorem linksTo_append {t : LinkTable} (h : t.Ascending) (peer : Nat) (links : List Link)
    (q : Nat) :
    (t.append peer links).linksTo q = t.linksTo q ++ if q = peer then links else [] := by
  rw [linksTo, append, lookup_insertInto q h, linksTo]
  by_cases hq : q = peer
  · simp [hq]
  · simp [hq]

end LinkTable

/-! ## Links between positions -/

/-- The links from the device at position `i` to the peer `j`. -/
def linksBetween (devices : List Device) (i j : Nat) : List Link :=
  ((devices[i]?).map fun d => d.linksTo j).getD []

/-- Every table of links of a list ascends. -/
def LinksAscend (devices : List Device) : Prop := ∀ d ∈ devices, d.links.Ascending

/-- A device without its links. -/
def Device.bare (d : Device) : Device := { d with links := .empty }

theorem linksBetween_eq {devices : List Device} {i : Nat} {d : Device} (h : devices[i]? = some d)
    (j : Nat) : linksBetween devices i j = d.linksTo j := by
  rw [linksBetween, h]
  rfl

theorem linksAscend_linkFrom {devices : List Device} (h : LinksAscend devices) (a b : Nat)
    (link : Link) : LinksAscend (linkFrom devices a b link) := by
  intro d hd
  obtain ⟨i, hi⟩ := List.mem_iff_getElem?.mp hd
  rw [linkFrom, List.getElem?_modify] at hi
  obtain ⟨e, he, rfl⟩ := Option.map_eq_some_iff.mp hi
  have hmem := h e (List.mem_of_getElem? he)
  split
  · exact LinkTable.ascending_append hmem b [link]
  · exact hmem

theorem linksBetween_linkFrom {devices : List Device} (h : LinksAscend devices) {a : Nat}
    (ha : a < devices.length) (b : Nat) (link : Link) (i j : Nat) :
    linksBetween (linkFrom devices a b link) i j
      = linksBetween devices i j ++ if i = a ∧ j = b then [link] else [] := by
  by_cases hi : i = a
  · subst hi
    have hd : devices[i]? = some devices[i] := List.getElem?_eq_getElem ha
    have hmod : (linkFrom devices i b link)[i]?
        = some { devices[i] with links := devices[i].links.append b [link] } := by
      rw [linkFrom, List.getElem?_modify_eq, hd]
      rfl
    rw [linksBetween_eq hmod, linksBetween_eq hd]
    show (devices[i].links.append b [link]).linksTo j = _
    rw [LinkTable.linksTo_append (h _ (List.getElem_mem ha))]
    simp [Device.linksTo]
  · have hmod : (linkFrom devices a b link)[i]? = devices[i]? := by
      exact List.getElem?_modify_ne _ _ (fun he => hi he.symm)
    rw [linksBetween, hmod, ← linksBetween]
    simp [hi]

theorem map_bare_linkFrom (devices : List Device) (a b : Nat) (link : Link) :
    (linkFrom devices a b link).map Device.bare = devices.map Device.bare := by
  refine List.ext_getElem? fun i => ?_
  rw [List.getElem?_map, linkFrom, List.getElem?_modify, List.getElem?_map]
  cases devices[i]? with
  | none => rfl
  | some d =>
    show some (Device.bare (if a = i then _ else d)) = _
    split <;> rfl

/-! ## Links of a topology -/

/-- Whether an entry joins two positions, in either direction. -/
def LinkEntry.joins (l : LinkEntry) (i j : Nat) : Bool :=
  (l.a == i && l.b == j) || (l.a == j && l.b == i)

theorem LinkEntry.joins_comm (l : LinkEntry) (i j : Nat) : l.joins i j = l.joins j i :=
  Bool.or_comm _ _

/-- What making links keeps and adds: the devices are the same but for their links, and between
`i` and `j` the links `added i j` are new. -/
structure Linked (before after : List Device) (added : Nat → Nat → List Link) : Prop where
  bare : after.map Device.bare = before.map Device.bare
  ascend : LinksAscend after
  between : ∀ i j, linksBetween after i j = linksBetween before i j ++ added i j

theorem Linked.length_eq {before after : List Device} {added : Nat → Nat → List Link}
    (h : Linked before after added) : after.length = before.length := by
  simpa using congrArg List.length h.bare

theorem Linked.trans {first second third : List Device} {added more : Nat → Nat → List Link}
    (h : Linked first second added) (h' : Linked second third more) :
    Linked first third fun i j => added i j ++ more i j :=
  ⟨h'.bare.trans h.bare, h'.ascend, fun i j => by
    rw [h'.between, h.between, List.append_assoc]⟩

/-- One link of an entry, made in both directions. -/
theorem linked_connected {devices : List Device} {l : LinkEntry} (h : LinksAscend devices)
    (hab : l.a ≠ l.b) (ha : l.a < devices.length) (hb : l.b < devices.length) (link : Link) :
    Linked devices (connected devices l.a l.b link)
      fun i j => if l.joins i j then [link] else [] := by
  have hfrom := linksAscend_linkFrom h l.a l.b link
  refine ⟨?_, linksAscend_linkFrom hfrom l.b l.a link, fun i j => ?_⟩
  · rw [connected, map_bare_linkFrom, map_bare_linkFrom]
  · rw [connected, linksBetween_linkFrom hfrom (by rwa [length_linkFrom]),
      linksBetween_linkFrom h ha, List.append_assoc]
    apply congrArg (linksBetween devices i j ++ ·)
    -- The ends differ, so at most one direction of the link goes from `i` to `j`.
    by_cases h1 : i = l.a ∧ j = l.b
    · have h2 : ¬ (i = l.b ∧ j = l.a) := fun h2 => hab (h1.1.symm.trans h2.1)
      have hj : l.joins i j = true := by simp [LinkEntry.joins, h1.1, h1.2]
      rw [if_pos h1, if_neg h2, if_pos hj]
      rfl
    · have hj : l.joins i j = true ↔ i = l.b ∧ j = l.a := by
        simp only [LinkEntry.joins, Bool.or_eq_true, Bool.and_eq_true, beq_iff_eq]
        constructor
        · rintro (⟨rfl, rfl⟩ | ⟨rfl, rfl⟩)
          · exact absurd ⟨rfl, rfl⟩ h1
          · exact ⟨rfl, rfl⟩
        · intro hx
          obtain ⟨rfl, rfl⟩ := hx
          exact Or.inr ⟨rfl, rfl⟩
      rw [if_neg h1, List.nil_append]
      exact if_congr hj.symm rfl rfl

/-- All links of an entry. -/
theorem linked_entry {l : LinkEntry} (hab : l.a ≠ l.b) :
    ∀ {types : List Link} {devices : List Device}, LinksAscend devices →
      l.a < devices.length → l.b < devices.length →
      Linked devices (types.foldl (fun ds type => connected ds l.a l.b type) devices)
        fun i j => if l.joins i j then types else [] := by
  intro types
  induction types with
  | nil =>
    intro devices h _ _
    exact ⟨rfl, h, fun i j => by split <;> simp⟩
  | cons type types ih =>
    intro devices h ha hb
    have hfirst := linked_connected h hab ha hb type
    have hrest := ih hfirst.ascend (by rwa [length_connected]) (by rwa [length_connected])
    have hall := hfirst.trans hrest
    refine ⟨hall.bare, hall.ascend, fun i j => ?_⟩
    rw [List.foldl_cons, hall.between]
    split <;> simp

/-- The links of all entries: between two positions stand the types of the entries that join
them, in file order. -/
theorem linked_addLinks :
    ∀ {entries : List LinkEntry} {devices made : List Device}, LinksAscend devices →
      Topology.addLinks devices entries = .ok made →
      Linked devices made fun i j => (entries.filter (·.joins i j)).flatMap LinkEntry.types := by
  intro entries
  induction entries with
  | nil =>
    intro devices made h hok
    rw [Topology.addLinks, Except.ok.injEq] at hok
    subst hok
    exact ⟨rfl, h, fun i j => by simp⟩
  | cons l entries ih =>
    intro devices made h hok
    rw [Topology.addLinks] at hok
    split at hok
    · exact absurd hok (by simp)
    · rename_i hvalid
      have hab : l.a ≠ l.b := by omega
      have hfirst : Linked devices _ fun i j => if l.joins i j then l.types else [] :=
        linked_entry hab h (by omega) (by omega)
      have hall := hfirst.trans (ih hfirst.ascend hok)
      refine ⟨hall.bare, hall.ascend, fun i j => ?_⟩
      rw [hall.between, List.filter_cons]
      split <;> simp

end GpuPlacement
