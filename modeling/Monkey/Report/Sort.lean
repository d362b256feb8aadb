/-!
# The tools' sort

The order in which the tools' language sorts a list by a "less than" test. The test may fail,
which stops the sort, and it need not be a total order: a not-a-number is neither less nor more
than anything, and where one stands after sorting follows from the exact steps below, which
decide which items are ever compared.

1. The list is cut into runs from left to right. A run is found at the head of what is left:
   items each not less than the one before them, or items each less than the one before them,
   which are then reversed. A run shorter than the minimum run length, computed from the
   length of the list, is extended to that length (or to what is left) by inserting each
   following item after the last place where it is not less than the item there, found by
   halving the range.
2. Each run is pushed on a stack. Before the push, the boundary between the last run on the
   stack and the new one gets a power: the first binary digit at which the midpoints of the
   two runs, as fractions of the list, differ. While the boundary below the last run has a
   greater power, the last two runs on the stack are merged.
3. At the end the runs on the stack are merged, the last two each time unless the third from
   the top is shorter than the top, in which case the two below the top are merged.
4. Two adjacent runs are merged after skipping the items of the first that no item of the
   second goes before, and the items of the second that go after all of the first. The shorter
   of what is left is set aside and the merge goes from that side: from the left when the first
   run is not longer, else from the right. Items are taken one at a time until one side wins a
   number of times in a row; then each side gallops, finding how many of its items go next by
   doubling steps and halving, until neither gallop takes seven items. The number of wins
   needed to start galloping falls while galloping pays and rises when it stops, and carries
   over from merge to merge.

Items that are not less than each other keep their order, so the sort is stable. Every loop
takes at least one step per item it places, so fuel equal to the number of items in play, plus
one, lets each finish.
-/

namespace Monkey

namespace Report

variable {m : Type → Type} [Monad m] {α : Type}

/-- The number of wins in a row that starts galloping, to begin with, and the number of items
a gallop must take for galloping to go on. -/
def minGallopStart : Nat := 7

/-- The index just past a run that starts before `i` and goes on while each item compares
less than the one before it exactly when `descending`, up to `hi`. -/
def runEnd (lt : α → α → m Bool) (items : Array α) (d : α) (descending : Bool) (hi : Nat) :
    Nat → Nat → m Nat
  | 0, i => pure i
  | fuel + 1, i =>
    if i < hi then do
      if (← lt (items.getD i d) (items.getD (i - 1) d)) == descending then
        runEnd lt items d descending hi fuel (i + 1)
      else pure i
    else pure i

/-- The length of the run at `lo` in `items[lo, hi)`, at least one, and whether it descends. -/
def countRun (lt : α → α → m Bool) (items : Array α) (d : α) (lo hi : Nat) :
    m (Nat × Bool) := do
  if hi ≤ lo + 1 then return (1, false)
  let descending ← lt (items.getD (lo + 1) d) (items.getD lo d)
  let stop ← runEnd lt items d descending hi (hi - lo) (lo + 2)
  pure (stop - lo, descending)

/-- The place of `pivot` in the sorted `items[l, r)`: halving the range, going left of the
middle item when `pivot` is less than it and right of it otherwise. -/
def insertionPoint (lt : α → α → m Bool) (items : Array α) (d : α) (pivot : α) :
    Nat → Nat → Nat → m Nat
  | 0, l, _ => pure l
  | fuel + 1, l, r =>
    if l < r then do
      let p := l + (r - l) / 2
      if ← lt pivot (items.getD p d) then insertionPoint lt items d pivot fuel l p
      else insertionPoint lt items d pivot fuel (p + 1) r
    else pure l

/-- The items with those of `items[lo, start)` sorted and each of `items[start, hi)` inserted
in turn at its place among the sorted ones. -/
def insertAll (lt : α → α → m Bool) (d : α) (lo hi : Nat) :
    Nat → Nat → Array α → m (Array α)
  | 0, _, items => pure items
  | fuel + 1, start, items =>
    if start < hi then do
      let pivot := items.getD start d
      let l ← insertionPoint lt items d pivot (start - lo + 1) lo start
      let items := (items.eraseIdxIfInBounds start).insertIdxIfInBounds l pivot
      insertAll lt d lo hi fuel (start + 1) items
    else pure items

/-- The number of steps of doubling offsets, from `ofs`, while `test` holds at the offset and
the offset is below `maxofs`: the last offset where it held (or `lastofs`) and the first where
it failed or that reached the bound. -/
def gallopSteps (test : Nat → m Bool) (maxofs : Nat) : Nat → Nat → Nat → m (Nat × Nat)
  | 0, lastofs, ofs => pure (lastofs, ofs)
  | fuel + 1, lastofs, ofs =>
    if ofs < maxofs then do
      if ← test ofs then gallopSteps test maxofs fuel ofs (2 * ofs + 1)
      else pure (lastofs, ofs)
    else pure (lastofs, ofs)

/-- The end of a search between `lo` and `hi` by halving: the first place where `goesLeft`
holds, given that it fails below `lo` and holds from `hi` on. -/
def halving (goesLeft : Nat → m Bool) : Nat → Nat → Nat → m Nat
  | 0, _, hi => pure hi
  | fuel + 1, lo, hi =>
    if lo < hi then do
      let mid := lo + (hi - lo) / 2
      if ← goesLeft mid then halving goesLeft fuel lo mid
      else halving goesLeft fuel (mid + 1) hi
    else pure hi

/-- Where `key` goes among the `n` sorted items of `a` from `base`, before any equal to it,
searching from `hint` outwards by doubling steps and then by halving. -/
def gallopLeft (lt : α → α → m Bool) (d : α) (key : α) (a : Array α) (base n hint : Nat) :
    m Nat := do
  let item (i : Nat) : α := a.getD (base + i) d
  let (lo, hi) ←
    if ← lt (item hint) key then do
      let maxofs := n - hint
      let (lastofs, ofs) ← gallopSteps (fun o => lt (item (hint + o)) key) maxofs (n + 1) 0 1
      pure (lastofs + hint + 1, min ofs maxofs + hint)
    else do
      let maxofs := hint + 1
      let (lastofs, ofs) ← gallopSteps (fun o => do pure !(← lt (item (hint - o)) key)) maxofs
        (n + 1) 0 1
      pure (hint + 1 - min ofs maxofs, hint - lastofs)
  halving (fun i => do pure !(← lt (item i) key)) (n + 1) lo hi

/-- Where `key` goes among the `n` sorted items of `a` from `base`, after any equal to it,
searching from `hint` outwards by doubling steps and then by halving. -/
def gallopRight (lt : α → α → m Bool) (d : α) (key : α) (a : Array α) (base n hint : Nat) :
    m Nat := do
  let item (i : Nat) : α := a.getD (base + i) d
  let (lo, hi) ←
    if ← lt key (item hint) then do
      let maxofs := hint + 1
      let (lastofs, ofs) ← gallopSteps (fun o => lt key (item (hint - o))) maxofs (n + 1) 0 1
      pure (hint + 1 - min ofs maxofs, hint - lastofs)
    else do
      let maxofs := n - hint
      let (lastofs, ofs) ← gallopSteps (fun o => do pure !(← lt key (item (hint + o)))) maxofs
        (n + 1) 0 1
      pure (lastofs + hint + 1, min ofs maxofs + hint)
  halving (fun i => lt key (item i)) (n + 1) lo hi

/-- The items with `count` items of `src` from `start` written from `target` on. -/
def writeAll (items src : Array α) (d : α) (start target count : Nat) : Array α :=
  (List.range count).foldl (fun acc i => acc.setIfInBounds (target + i) (src.getD (start + i) d))
    items

/-- A merge under way: the list, the copy of the run set aside, where the next item goes, the
next items of the two runs (or the ends of what is left of them, merging from the right), how
many of each are left, and the number of wins that starts galloping. -/
structure Merge (α : Type) where
  items : Array α
  kept : Array α
  dest : Nat
  ia : Nat
  ib : Nat
  na : Nat
  nb : Nat
  minGallop : Nat

/-- How a stretch of a merge ends: the merge is done, one run is down to its last item (from
the left, the first run; from the right, the second), or it is time to change from taking
items one at a time to galloping or back. -/
inductive MergeStep where
  | done
  | lastOne
  | switch

namespace Merge

/-- Merging from the left, the items of the first run are kept aside and those of the second
stay in the list. Takes items one at a time until a run has won `minGallop` times in a row. -/
def lowOneByOne (lt : α → α → m Bool) (d : α) :
    Nat → Nat → Nat → Merge α → m (MergeStep × Merge α)
  | 0, _, _, s => pure (.done, s)
  | fuel + 1, acount, bcount, s => do
    let b := s.items.getD s.ib d
    let a := s.kept.getD s.ia d
    if ← lt b a then
      let s := { s with items := s.items.setIfInBounds s.dest b, dest := s.dest + 1,
                        ib := s.ib + 1, nb := s.nb - 1 }
      if s.nb == 0 then return (.done, s)
      if bcount + 1 ≥ s.minGallop then return (.switch, s)
      lowOneByOne lt d fuel 0 (bcount + 1) s
    else
      let s := { s with items := s.items.setIfInBounds s.dest a, dest := s.dest + 1,
                        ia := s.ia + 1, na := s.na - 1 }
      if s.na == 1 then return (.lastOne, s)
      if acount + 1 ≥ s.minGallop then return (.switch, s)
      lowOneByOne lt d fuel (acount + 1) 0 s

/-- Merging from the left, each run gallops in turn until neither takes seven items. -/
def lowGalloping (lt : α → α → m Bool) (d : α) : Nat → Merge α → m (MergeStep × Merge α)
  | 0, s => pure (.done, s)
  | fuel + 1, s => do
    let s := { s with minGallop := s.minGallop - (if s.minGallop > 1 then 1 else 0) }
    let k ← gallopRight lt d (s.items.getD s.ib d) s.kept s.ia s.na 0
    let acount := k
    let s := if k > 0 then
        { s with items := writeAll s.items s.kept d s.ia s.dest k, dest := s.dest + k,
                 ia := s.ia + k, na := s.na - k }
      else s
    if k > 0 && s.na == 1 then return (.lastOne, s)
    if k > 0 && s.na == 0 then return (.done, s)
    let s := { s with items := s.items.setIfInBounds s.dest (s.items.getD s.ib d),
                      dest := s.dest + 1, ib := s.ib + 1, nb := s.nb - 1 }
    if s.nb == 0 then return (.done, s)
    let k ← gallopLeft lt d (s.kept.getD s.ia d) s.items s.ib s.nb 0
    let bcount := k
    let s := if k > 0 then
        { s with items := writeAll s.items s.items d s.ib s.dest k, dest := s.dest + k,
                 ib := s.ib + k, nb := s.nb - k }
      else s
    if k > 0 && s.nb == 0 then return (.done, s)
    let s := { s with items := s.items.setIfInBounds s.dest (s.kept.getD s.ia d),
                      dest := s.dest + 1, ia := s.ia + 1, na := s.na - 1 }
    if s.na == 1 then return (.lastOne, s)
    if acount ≥ minGallopStart || bcount ≥ minGallopStart then lowGalloping lt d fuel s
    else return (.switch, { s with minGallop := s.minGallop + 1 })

/-- Merging from the left, taking items one at a time and galloping in turn until done. -/
def lowMerge (lt : α → α → m Bool) (d : α) : Nat → Merge α → m (MergeStep × Merge α)
  | 0, s => pure (.done, s)
  | fuel + 1, s => do
    match ← lowOneByOne lt d (s.na + s.nb + 1) 0 0 s with
    | (.switch, s) =>
      match ← lowGalloping lt d (s.na + s.nb + 1) { s with minGallop := s.minGallop + 1 } with
      | (.switch, s) => lowMerge lt d fuel s
      | r => pure r
    | r => pure r

/-- Merging from the right, the items of the second run are kept aside and those of the first
stay in the list; `dest`, `ia` and `ib` are one past the next place and items. Takes items one
at a time until a run has won `minGallop` times in a row. -/
def highOneByOne (lt : α → α → m Bool) (d : α) :
    Nat → Nat → Nat → Merge α → m (MergeStep × Merge α)
  | 0, _, _, s => pure (.done, s)
  | fuel + 1, acount, bcount, s => do
    let b := s.kept.getD (s.ib - 1) d
    let a := s.items.getD (s.ia - 1) d
    if ← lt b a then
      let s := { s with items := s.items.setIfInBounds (s.dest - 1) a, dest := s.dest - 1,
                        ia := s.ia - 1, na := s.na - 1 }
      if s.na == 0 then return (.done, s)
      if acount + 1 ≥ s.minGallop then return (.switch, s)
      highOneByOne lt d fuel (acount + 1) 0 s
    else
      let s := { s with items := s.items.setIfInBounds (s.dest - 1) b, dest := s.dest - 1,
                        ib := s.ib - 1, nb := s.nb - 1 }
      if s.nb == 1 then return (.lastOne, s)
      if bcount + 1 ≥ s.minGallop then return (.switch, s)
      highOneByOne lt d fuel 0 (bcount + 1) s

/-- Merging from the right, each run gallops in turn until neither takes seven items; `base`
is where the first run starts. -/
def highGalloping (lt : α → α → m Bool) (d : α) (base : Nat) :
    Nat → Merge α → m (MergeStep × Merge α)
  | 0, s => pure (.done, s)
  | fuel + 1, s => do
    let s := { s with minGallop := s.minGallop - (if s.minGallop > 1 then 1 else 0) }
    let k := s.na - (← gallopRight lt d (s.kept.getD (s.ib - 1) d) s.items base s.na (s.na - 1))
    let acount := k
    let s := if k > 0 then
        { s with items := writeAll s.items s.items d (s.ia - k) (s.dest - k) k,
                 dest := s.dest - k, ia := s.ia - k, na := s.na - k }
      else s
    if k > 0 && s.na == 0 then return (.done, s)
    let s := { s with items := s.items.setIfInBounds (s.dest - 1) (s.kept.getD (s.ib - 1) d),
                      dest := s.dest - 1, ib := s.ib - 1, nb := s.nb - 1 }
    if s.nb == 1 then return (.lastOne, s)
    let k := s.nb - (← gallopLeft lt d (s.items.getD (s.ia - 1) d) s.kept 0 s.nb (s.nb - 1))
    let bcount := k
    let s := if k > 0 then
        { s with items := writeAll s.items s.kept d (s.ib - k) (s.dest - k) k,
                 dest := s.dest - k, ib := s.ib - k, nb := s.nb - k }
      else s
    if k > 0 && s.nb == 1 then return (.lastOne, s)
    if k > 0 && s.nb == 0 then return (.done, s)
    let s := { s with items := s.items.setIfInBounds (s.dest - 1) (s.items.getD (s.ia - 1) d),
                      dest := s.dest - 1, ia := s.ia - 1, na := s.na - 1 }
    if s.na == 0 then return (.done, s)
    if acount ≥ minGallopStart || bcount ≥ minGallopStart then highGalloping lt d base fuel s
    else return (.switch, { s with minGallop := s.minGallop + 1 })

/-- Merging from the right, taking items one at a time and galloping in turn until done. -/
def highMerge (lt : α → α → m Bool) (d : α) (base : Nat) :
    Nat → Merge α → m (MergeStep × Merge α)
  | 0, s => pure (.done, s)
  | fuel + 1, s => do
    match ← highOneByOne lt d (s.na + s.nb + 1) 0 0 s with
    | (.switch, s) =>
      match ← highGalloping lt d base (s.na + s.nb + 1)
          { s with minGallop := s.minGallop + 1 } with
      | (.switch, s) => highMerge lt d base fuel s
      | r => pure r
    | r => pure r

end Merge

/-- The merge from the left of `items[pa, pa + na)` with the `nb` items that follow it: the
items and the number of wins that starts galloping after it. -/
def mergeLow (lt : α → α → m Bool) (d : α) (items : Array α) (minGallop pa na pb nb : Nat) :
    m (Array α × Nat) := do
  let s : Merge α := { items := items.setIfInBounds pa (items.getD pb d),
                       kept := items.extract pa (pa + na), dest := pa + 1, ia := 0,
                       ib := pb + 1, na, nb := nb - 1, minGallop }
  let (step, s) ←
    if s.nb == 0 then pure (MergeStep.done, s)
    else if s.na == 1 then pure (MergeStep.lastOne, s)
    else Merge.lowMerge lt d (na + nb + 1) s
  match step with
  | .lastOne =>
    let items := writeAll s.items s.items d s.ib s.dest s.nb
    pure (items.setIfInBounds (s.dest + s.nb) (s.kept.getD s.ia d), s.minGallop)
  | _ => pure (writeAll s.items s.kept d s.ia s.dest s.na, s.minGallop)

/-- The merge from the right of `items[pa, pa + na)` with the `nb` items that follow it: the
items and the number of wins that starts galloping after it. -/
def mergeHigh (lt : α → α → m Bool) (d : α) (items : Array α) (minGallop pa na pb nb : Nat) :
    m (Array α × Nat) := do
  let s : Merge α := { items := items.setIfInBounds (pb + nb - 1) (items.getD (pa + na - 1) d),
                       kept := items.extract pb (pb + nb), dest := pb + nb - 1,
                       ia := pa + na - 1, ib := nb, na := na - 1, nb, minGallop }
  let (step, s) ←
    if s.na == 0 then pure (MergeStep.done, s)
    else if s.nb == 1 then pure (MergeStep.lastOne, s)
    else Merge.highMerge lt d pa (na + nb + 1) s
  match step with
  | .lastOne =>
    let items := writeAll s.items s.items d (s.ia - s.na) (s.dest - s.na) s.na
    pure (items.setIfInBounds (s.dest - s.na - 1) (s.kept.getD (s.ib - 1) d), s.minGallop)
  | _ => pure (writeAll s.items s.kept d 0 (s.dest - s.nb) s.nb, s.minGallop)

/-- A run waiting on the stack: where it starts, its length, and the power of its boundary
with the run above it. -/
structure Run where
  base : Nat
  len : Nat
  power : Nat

/-- A sort under way: the items, the stack of runs, and the number of wins that starts
galloping. -/
structure Sorting (α : Type) where
  items : Array α
  runs : Array Run
  minGallop : Nat

/-- The stack of runs with the runs at `i` and `i + 1` merged, and the items with them merged. -/
def mergeAt (lt : α → α → m Bool) (d : α) (st : Sorting α) (i : Nat) : m (Sorting α) := do
  let dflt : Run := ⟨0, 0, 0⟩
  let ra := st.runs.getD i dflt
  let rb := st.runs.getD (i + 1) dflt
  let runs := st.runs.setIfInBounds i { ra with len := ra.len + rb.len }
  let runs := if i + 3 == st.runs.size then runs.setIfInBounds (i + 1) (runs.getD (i + 2) dflt)
    else runs
  let st := { st with runs := runs.pop }
  let k ← gallopRight lt d (st.items.getD rb.base d) st.items ra.base ra.len 0
  let pa := ra.base + k
  let na := ra.len - k
  if na == 0 then return st
  let nb ← gallopLeft lt d (st.items.getD (pa + na - 1) d) st.items rb.base rb.len (rb.len - 1)
  if nb == 0 then return st
  let (items, minGallop) ←
    if na ≤ nb then mergeLow lt d st.items st.minGallop pa na rb.base nb
    else mergeHigh lt d st.items st.minGallop pa na rb.base nb
  pure { st with items, minGallop }

/-- The power of the boundary between a run of `n1` items from `s1` and the `n2` items after
it, in a list of `n`: the first binary digit at which the fractions of the list at the two
midpoints differ. -/
def boundaryPower (s1 n1 n2 n : Nat) : Nat :=
  let rec go : Nat → Nat → Nat → Nat → Nat
    | 0, _, _, result => result
    | fuel + 1, a, b, result =>
      if a ≥ n then go fuel (2 * (a - n)) (2 * (b - n)) (result + 1)
      else if b ≥ n then result + 1
      else go fuel (2 * a) (2 * b) (result + 1)
  go (2 * n + 64) (2 * s1 + n1) (2 * s1 + 2 * n1 + n2) 0

/-- The stack made ready for a new run of `n2` items in a list of `n`: while the boundary below
the last run has a greater power than the new boundary, the last two runs are merged; then the
last run takes the new boundary's power. -/
def foundRun (lt : α → α → m Bool) (d : α) (n2 n : Nat) (st : Sorting α) : m (Sorting α) := do
  match st.runs.back? with
  | none => pure st
  | some last =>
    let power := boundaryPower last.base last.len n2 n
    let rec collapse : Nat → Sorting α → m (Sorting α)
      | 0, st => pure st
      | fuel + 1, st =>
        if st.runs.size > 1 && (st.runs.getD (st.runs.size - 2) ⟨0, 0, 0⟩).power > power then do
          collapse fuel (← mergeAt lt d st (st.runs.size - 2))
        else pure st
    let st ← collapse st.runs.size st
    let top := st.runs.size - 1
    pure { st with runs := st.runs.modify top fun r => { r with power } }

/-- All runs on the stack merged into one. -/
def mergeAll (lt : α → α → m Bool) (d : α) : Nat → Sorting α → m (Sorting α)
  | 0, st => pure st
  | fuel + 1, st =>
    if st.runs.size > 1 then do
      let n := st.runs.size - 2
      let len (j : Nat) : Nat := (st.runs.getD j ⟨0, 0, 0⟩).len
      let n := if n > 0 && len (n - 1) < len (n + 1) then n - 1 else n
      mergeAll lt d fuel (← mergeAt lt d st n)
    else pure st

/-- The shortest run the sort makes of a list of `n` items: `n` itself below 64, else between
32 and 64, so that the number of runs is a power of two or a little less. -/
def minRun (n : Nat) : Nat :=
  let rec go : Nat → Nat → Nat → Nat
    | 0, n, r => n + r
    | fuel + 1, n, r => if n ≥ 64 then go fuel (n / 2) (r ||| (n % 2)) else n + r
  go n n 0

/-- The runs from `lo` on, found, extended to the minimum run length and merged as they come. -/
def runsFrom (lt : α → α → m Bool) (d : α) (n minrun : Nat) :
    Nat → Nat → Sorting α → m (Sorting α)
  | 0, _, st => pure st
  | fuel + 1, lo, st =>
    if lo < n then do
      let (len, descending) ← countRun lt st.items d lo n
      let items := if descending then
          st.items.extract 0 lo ++ (st.items.extract lo (lo + len)).reverse ++
            st.items.extract (lo + len) n
        else st.items
      let remaining := n - lo
      let (items, len) ←
        if len < minrun then do
          let force := min remaining minrun
          pure (← insertAll lt d lo (lo + force) force (lo + len) items, force)
        else pure (items, len)
      let st ← foundRun lt d len n { st with items }
      runsFrom lt d n minrun fuel (lo + len) { st with runs := st.runs.push ⟨lo, len, 0⟩ }
    else pure st

/-- A list sorted by a test of "less than", as the tools sort it. -/
def hostSort (lt : α → α → m Bool) : List α → m (List α)
  | [] => pure []
  | [x] => pure [x]
  | x :: rest => do
    let items := (x :: rest).toArray
    let n := items.size
    let st ← runsFrom lt x n (minRun n) n 0 ⟨items, #[], minGallopStart⟩
    let st ← mergeAll lt x st.runs.size st
    pure st.items.toList

end Report

end Monkey
