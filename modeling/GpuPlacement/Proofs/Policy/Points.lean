import Mathlib
import GpuPlacement.Policy.Score
import GpuPlacement.Proofs.Result

/-!
# Points: scores without a bound

`pairScore`, `ScoreTable.ofSet` and `ScoreTable.ofPartition` (Policy/Score.lean) add numbers of 32
bits and fail when a sum needs more. Here are the sums they mean, over the naturals, and the one
fact about the checked sums: each makes the score of its points (`scoreOf`), which is their number
if that fits and a fault if it does not.

Points are not symmetric by themselves: two devices may agree on how many links connect them
(`TwoSided`) and still disagree on what the links are. A block of positions therefore counts each
of its devices with the later ones, in the order of the pool.
-/

set_option autoImplicit false

namespace GpuPlacement

/-- The points of links. -/
def linkPoints (links : List Link) : Nat := (links.map Link.points).sum

/-- The points of the links from a device to another one. -/
def pairPoints (a b : Device) : Nat := if a.same b then 0 else linkPoints (a.linksTo b.index)

/-- The points of devices, each with all later ones. -/
def setPoints : List Device → Nat
  | [] => 0
  | a :: rest => (rest.map (pairPoints a)).sum + setPoints rest

/-- The devices at positions; a position behind the last device holds none. -/
def devicesAt (available : List Device) (block : List Nat) : List Device :=
  block.filterMap fun p => available[p]?

/-- The points of all blocks of a split. -/
def splitPoints (available : List Device) (blocks : List (List Nat)) : Nat :=
  (blocks.map fun block => setPoints (devicesAt available block)).sum

/-- Any two devices agree on how many links connect them. -/
def TwoSided (devices : List Device) : Prop :=
  ∀ a ∈ devices, ∀ b ∈ devices, (a.linksTo b.index).length = (b.linksTo a.index).length

/-! ## Checked sums -/

/-- The score that points make: their number, if 32 bits hold it. -/
def scoreOf (points : Nat) : Except Fault Nat :=
  if points ≤ Text.maxU32 then .ok points else .error .scoreOverflow

theorem scoreOf_of_le {points : Nat} (h : points ≤ Text.maxU32) : scoreOf points = .ok points :=
  if_pos h

theorem scoreOf_of_lt {points : Nat} (h : Text.maxU32 < points) :
    scoreOf points = .error .scoreOverflow :=
  if_neg (Nat.not_le.mpr h)

theorem addScores_eq (s t : Nat) : addScores s t = scoreOf (s + t) := rfl

/-- A fold of checked additions makes the score of the sum, whichever addition it is that does not
fit. -/
theorem foldlM_scoreOf {α : Type} {score : α → Except Fault Nat} (points : α → Nat)
    {items : List α} {total : Nat} (ht : total ≤ Text.maxU32)
    (hscore : ∀ x ∈ items, score x = scoreOf (points x)) :
    items.foldlM (fun total x => do addScores total (← score x)) total
      = scoreOf (total + (items.map points).sum) := by
  induction items generalizing total with
  | nil => exact (scoreOf_of_le ht).symm
  | cons x items ih =>
    rw [List.foldlM_cons, List.map_cons, List.sum_cons, ← Nat.add_assoc, hscore x (by simp)]
    by_cases hfit : total + points x ≤ Text.maxU32
    · rw [scoreOf_of_le (by omega)]
      show (addScores total (points x) >>= fun s => items.foldlM _ s) = _
      rw [addScores_eq, scoreOf_of_le hfit]
      exact ih hfit fun y hy => hscore y (List.mem_cons_of_mem _ hy)
    · -- The points of `x` do not fit by themselves, or do not fit on top of the others.
      rw [scoreOf_of_lt (by omega : Text.maxU32 < total + points x + _)]
      by_cases hone : points x ≤ Text.maxU32
      · rw [scoreOf_of_le hone]
        show (addScores total (points x) >>= fun s => items.foldlM _ s) = _
        rw [addScores_eq, scoreOf_of_lt (Nat.not_le.mp hfit)]
        rfl
      · rw [scoreOf_of_lt (Nat.not_le.mp hone)]
        rfl

theorem linkScore_eq_scoreOf (links : List Link) : linkScore links = scoreOf (linkPoints links) := by
  have hlink : ∀ link ∈ links, Except.ok link.points = scoreOf link.points := fun link _ =>
    (scoreOf_of_le (link.points_le.trans (by decide))).symm
  have hsum : links.foldlM (fun total link => addScores total link.points) 0
      = scoreOf (0 + linkPoints links) := foldlM_scoreOf Link.points (Nat.zero_le _) hlink
  rwa [Nat.zero_add] at hsum

theorem linkPoints_perm {links links' : List Link} (h : links.Perm links') :
    linkPoints links = linkPoints links' := (h.map Link.points).sum_eq

/-- As many links of the highest worth make a score, and no more than these. -/
theorem mul_le_maxU32_iff {n : Nat} : n * 1200 ≤ Text.maxU32 ↔ n ≤ 3579139 := by
  rw [show Text.maxU32 = 4294967295 from rfl]
  omega

theorem linkPoints_replicate (n : Nat) (link : Link) :
    linkPoints (List.replicate n link) = n * link.points := by
  rw [linkPoints, List.map_replicate, List.sum_replicate, smul_eq_mul]

theorem linkPoints_le (links : List Link) : linkPoints links ≤ links.length * 1200 := by
  refine (List.sum_le_card_nsmul _ 1200 fun n hn => ?_).trans (by simp)
  obtain ⟨link, -, rfl⟩ := List.mem_map.mp hn
  exact link.points_le

/-- Two devices that agree on how many links connect them score the points from the first one. -/
theorem pairScore_eq_scoreOf {a b : Device}
    (h : (a.linksTo b.index).length = (b.linksTo a.index).length) :
    pairScore (some a) (some b) = scoreOf (pairPoints a b) := by
  rw [pairScore, pairPoints]
  by_cases hs : a.same b
  · rw [if_pos hs, if_pos hs]
    rfl
  · rw [if_neg hs, if_neg hs, if_neg (not_not.mpr h)]
    exact linkScore_eq_scoreOf _

theorem pairPoints_le (a b : Device) : pairPoints a b ≤ (a.linksTo b.index).length * 1200 := by
  rw [pairPoints]
  split
  · exact Nat.zero_le _
  · exact linkPoints_le _

/-! ## Sums over pairs

Points are not the only thing that is counted over the pairs of a list, so the sum is taken for
any weight. -/

/-- The weights of all pairs of a list, each element with all later ones. -/
def pairSum {α : Type} (w : α → α → Nat) : List α → Nat
  | [] => 0
  | a :: rest => (rest.map (w a)).sum + pairSum w rest

theorem setPoints_eq_pairSum (devices : List Device) :
    setPoints devices = pairSum pairPoints devices := by
  induction devices with
  | nil => rfl
  | cons a devices ih => rw [setPoints, pairSum, ih]

section

variable {α : Type} {w : α → α → Nat} {l l' : List α}

/-- What can be seen of a sum over pairs does not depend on their order, if it does not for each
pair: `f` says what can be seen of a number, and goes on to do so when something is added. -/
theorem map_pairSum_perm {γ : Type} {f : Nat → γ}
    (hf : ∀ x y, f x = f y → ∀ t, f (t + x) = f (t + y)) (hp : l.Perm l')
    (hw : ∀ a ∈ l, ∀ b ∈ l, f (w a b) = f (w b a)) : f (pairSum w l) = f (pairSum w l') := by
  induction hp with
  | nil => rfl
  | @cons a l l' hp ih =>
    rw [pairSum, pairSum, ← (hp.map (w a)).sum_eq]
    exact hf _ _ (ih fun b hb c hc => hw b (by simp [hb]) c (by simp [hc])) _
  | swap a b l =>
    have hba : pairSum w (b :: a :: l)
        = (l.map (w b)).sum + ((l.map (w a)).sum + pairSum w l) + w b a := by
      simp only [pairSum, List.map_cons, List.sum_cons]
      omega
    have hab : pairSum w (a :: b :: l)
        = (l.map (w b)).sum + ((l.map (w a)).sum + pairSum w l) + w a b := by
      simp only [pairSum, List.map_cons, List.sum_cons]
      omega
    rw [hba, hab]
    exact hf _ _ (hw b (by simp) a (by simp)) _
  | trans hp _ ih ih' =>
    exact (ih hw).trans (ih' fun a ha b hb => hw a (hp.mem_iff.mpr ha) b (hp.mem_iff.mpr hb))

theorem pairSum_perm (hp : l.Perm l') (hw : ∀ a ∈ l, ∀ b ∈ l, w a b = w b a) :
    pairSum w l = pairSum w l' :=
  map_pairSum_perm (f := id) (fun _ _ h t => congrArg (t + ·) h) hp hw

theorem pairSum_add_le (l more : List α) :
    pairSum w l + pairSum w more ≤ pairSum w (l ++ more) := by
  induction l with
  | nil => rw [pairSum, Nat.zero_add, List.nil_append]
  | cons a l ih =>
    rw [List.cons_append, pairSum, pairSum, List.map_append, List.sum_append]
    omega

/-- The pairs of parts are pairs of the whole. -/
theorem sum_pairSum_le_flatten (groups : List (List α)) :
    (groups.map (pairSum w)).sum ≤ pairSum w groups.flatten := by
  induction groups with
  | nil => exact Nat.zero_le _
  | cons g groups ih =>
    rw [List.map_cons, List.sum_cons, List.flatten_cons]
    exact (Nat.add_le_add_left ih _).trans (pairSum_add_le g groups.flatten)

theorem pairSum_le_of_sublist (h : l.Sublist l') : pairSum w l ≤ pairSum w l' := by
  induction h with
  | slnil => exact Nat.le_refl _
  | cons a _ ih =>
    rw [pairSum]
    omega
  | @cons_cons l l' a h ih =>
    rw [pairSum, pairSum]
    exact Nat.add_le_add ((h.map _).sum_le_sum fun _ _ => Nat.zero_le _) ih

/-- The elements of a part may stand in another order, where pairs weigh the same from both ends. -/
theorem pairSum_le_of_subperm (h : l.Subperm l') (hw : ∀ a ∈ l', ∀ b ∈ l', w a b = w b a) :
    pairSum w l ≤ pairSum w l' := by
  obtain ⟨same, hp, hsub⟩ := h
  rw [← pairSum_perm hp fun a ha b hb => hw a (hsub.subset ha) b (hsub.subset hb)]
  exact pairSum_le_of_sublist hsub

theorem pairSum_le_mul {v : α → α → Nat} {k : Nat} (h : ∀ a b, w a b ≤ v a b * k) (l : List α) :
    pairSum w l ≤ pairSum v l * k := by
  induction l with
  | nil => exact Nat.zero_le _
  | cons a l ih =>
    have hsum : (l.map (w a)).sum ≤ (l.map (v a)).sum * k := by
      rw [← List.sum_map_mul_right]
      exact List.sum_le_sum fun b _ => h a b
    rw [pairSum, pairSum, Nat.add_mul]
    exact Nat.add_le_add hsum ih

end

/-! ## Sets and splits -/

theorem devicesAt_cons_none {available : List Device} {p : Nat} {block : List Nat}
    (h : available[p]? = none) : devicesAt available (p :: block) = devicesAt available block :=
  List.filterMap_cons_none h

theorem devicesAt_cons_some {available : List Device} {p : Nat} {block : List Nat} {d : Device}
    (h : available[p]? = some d) :
    devicesAt available (p :: block) = d :: devicesAt available block :=
  List.filterMap_cons_some h

theorem devicesAt_append (available : List Device) (block more : List Nat) :
    devicesAt available (block ++ more) = devicesAt available block ++ devicesAt available more :=
  List.filterMap_append

theorem mem_of_mem_devicesAt {available : List Device} {block : List Nat} {d : Device}
    (h : d ∈ devicesAt available block) : d ∈ available := by
  obtain ⟨p, -, hp⟩ := List.mem_filterMap.mp h
  exact List.mem_of_getElem? hp

/-- The score of the pairs of one position: those with the devices at later positions. -/
theorem foldlM_pairs_eq {available : List Device} (hlinks : TwoSided available) {p : Nat}
    {a : Device} (ha : available[p]? = some a) (block : List Nat) {total : Nat}
    (ht : total ≤ Text.maxU32) :
    block.foldlM (fun total q => do
        addScores total (← (ScoreTable.ofDevices available).pair p q)) total
      = scoreOf (total + ((devicesAt available block).map (pairPoints a)).sum) := by
  -- Positions without a device count nothing, as they do not stand in `devicesAt` either.
  have hsum : (block.map fun q => (available[q]?.map (pairPoints a)).getD 0).sum
      = ((devicesAt available block).map (pairPoints a)).sum := by
    induction block with
    | nil => rfl
    | cons q block ih =>
      rw [List.map_cons, List.sum_cons, ih]
      cases hq : available[q]? with
      | none => simp [devicesAt_cons_none hq]
      | some b => simp [devicesAt_cons_some hq]
  rw [← hsum]
  refine foldlM_scoreOf _ ht fun q _ => ?_
  rw [ScoreTable.pair_ofDevices, ha]
  cases hb : available[q]? with
  | none => exact (scoreOf_of_le (Nat.zero_le _)).symm
  | some b =>
    exact pairScore_eq_scoreOf (hlinks a (List.mem_of_getElem? ha) b (List.mem_of_getElem? hb))

/-- A position without a device has no pairs that count. -/
theorem foldlM_noPairs_eq {available : List Device} {p : Nat} (hp : available[p]? = none)
    (block : List Nat) {total : Nat} (ht : total ≤ Text.maxU32) :
    block.foldlM (fun total q => do
        addScores total (← (ScoreTable.ofDevices available).pair p q)) total = .ok total := by
  have hnone : ∀ q ∈ block, (ScoreTable.ofDevices available).pair p q = scoreOf 0 := by
    intro q _
    rw [ScoreTable.pair_ofDevices, hp]
    rfl
  have hzero : (block.map fun _ => 0).sum = 0 := by simp
  rw [foldlM_scoreOf (fun _ => 0) ht hnone, hzero, Nat.add_zero, scoreOf_of_le ht]

theorem addPairs_eq {available : List Device} (hlinks : TwoSided available) (block : List Nat)
    {total : Nat} (ht : total ≤ Text.maxU32) :
    (ScoreTable.ofDevices available).addPairs total block
      = scoreOf (total + setPoints (devicesAt available block)) := by
  induction block generalizing total with
  | nil => exact (scoreOf_of_le ht).symm
  | cons p block ih =>
    rw [ScoreTable.addPairs]
    cases ha : available[p]? with
    | none =>
      rw [devicesAt_cons_none ha, foldlM_noPairs_eq ha block ht]
      exact ih ht
    | some a =>
      rw [devicesAt_cons_some ha, setPoints, foldlM_pairs_eq hlinks ha block ht, ← Nat.add_assoc]
      by_cases hfit : total + ((devicesAt available block).map (pairPoints a)).sum ≤ Text.maxU32
      · rw [scoreOf_of_le hfit]
        exact ih hfit
      · rw [scoreOf_of_lt (Nat.not_le.mp hfit), scoreOf_of_lt (by omega)]
        rfl

/-- The score of a set is that of its points. -/
theorem ofSet_eq_scoreOf {available : List Device} (hlinks : TwoSided available)
    (block : List Nat) :
    (ScoreTable.ofDevices available).ofSet block
      = scoreOf (setPoints (devicesAt available block)) := by
  rw [ScoreTable.ofSet, addPairs_eq hlinks block (Nat.zero_le _), Nat.zero_add]

/-- The score of a split is that of its points. -/
theorem ofPartition_eq_scoreOf {available : List Device} (hlinks : TwoSided available)
    (blocks : List (List Nat)) :
    (ScoreTable.ofDevices available).ofPartition blocks
      = scoreOf (splitPoints available blocks) := by
  rw [ScoreTable.ofPartition, foldlM_scoreOf (fun block => setPoints (devicesAt available block))
    (Nat.zero_le _) fun block _ => ofSet_eq_scoreOf hlinks block, Nat.zero_add]
  rfl

theorem ofSet_eq {available : List Device} (hlinks : TwoSided available) {block : List Nat}
    (hfit : setPoints (devicesAt available block) ≤ Text.maxU32) :
    (ScoreTable.ofDevices available).ofSet block
      = .ok (setPoints (devicesAt available block)) := by
  rw [ofSet_eq_scoreOf hlinks, scoreOf_of_le hfit]

theorem ofPartition_eq {available : List Device} (hlinks : TwoSided available)
    {blocks : List (List Nat)} (hfit : splitPoints available blocks ≤ Text.maxU32) :
    (ScoreTable.ofDevices available).ofPartition blocks = .ok (splitPoints available blocks) := by
  rw [ofPartition_eq_scoreOf hlinks, scoreOf_of_le hfit]

theorem setPoints_le_splitPoints {available : List Device} {blocks : List (List Nat)}
    {block : List Nat} (h : block ∈ blocks) :
    setPoints (devicesAt available block) ≤ splitPoints available blocks :=
  List.le_sum_of_mem (List.mem_map_of_mem h)

/-! ## Whatever the links are -/

/-- The faults that counting a score can end in. -/
inductive Fault.OfScores : Fault → Prop
  | overflow : OfScores .scoreOverflow
  | oneSided (a b forward backward : Nat) : OfScores (.oneSidedLinks a b forward backward)

theorem scoreOf_failsIn (points : Nat) : FailsIn Fault.OfScores (scoreOf points) := by
  unfold scoreOf
  split
  · exact failsIn_ok _
  · exact failsIn_error .overflow

theorem pairScore_failsIn (a b : Option Device) : FailsIn Fault.OfScores (pairScore a b) := by
  unfold pairScore
  split
  · split
    · exact failsIn_ok _
    · dsimp only
      split
      · exact failsIn_error (.oneSided _ _ _ _)
      · rw [linkScore_eq_scoreOf]
        exact scoreOf_failsIn _
  · exact failsIn_ok _

theorem addPairs_failsIn (available : List Device) (total : Nat) (set : List Nat) :
    FailsIn Fault.OfScores ((ScoreTable.ofDevices available).addPairs total set) := by
  induction set generalizing total with
  | nil => exact failsIn_ok _
  | cons p rest ih =>
    refine (failsIn_foldlM (fun q _ t => ?_) total).bind ih
    rw [ScoreTable.pair_ofDevices]
    exact (pairScore_failsIn _ _).bind fun s => scoreOf_failsIn (t + s)

theorem ofSet_failsIn (available : List Device) (set : List Nat) :
    FailsIn Fault.OfScores ((ScoreTable.ofDevices available).ofSet set) :=
  addPairs_failsIn available 0 set

theorem ofPartition_failsIn (available : List Device) (split : List (List Nat)) :
    FailsIn Fault.OfScores ((ScoreTable.ofDevices available).ofPartition split) :=
  failsIn_foldlM (fun set _ t =>
    (ofSet_failsIn available set).bind fun s => scoreOf_failsIn (t + s)) 0

end GpuPlacement
