import Mathlib.Data.Finset.Card
import Axm57104.Common.RefCount

/-!
# Groups with members, a reference count and a number

Members of a group share one object, which is allocated for the first member, counts its members and is
freed with the last. Each object has a number out of a pool: two objects never have the same number,
except that zero stands for none. `Groups.Sound` is the invariant; how the pool knows the numbers that
are in use is left to `Agrees`, a relation between its state and the number of each object.

The counter may saturate, so a group with very many members may stay behind without any.
-/

namespace Common

variable {κ δ π : Type*}

/-- The object of a group. -/
structure GroupObj (δ : Type*) where
  dev : δ
  num : ℕ
  refcount : ℤ

/-- The objects by address, the next address, the object of each member, and the pool of numbers. -/
structure Groups (κ δ π : Type*) where
  heap : ℕ → Option (GroupObj δ)
  next : ℕ
  member : κ → Option ℕ
  pool : π

namespace Groups

/-- What a member reads from its object. -/
def fieldOf {τ : Type*} (f : GroupObj δ → τ) (g : Groups κ δ π) (p : κ) : Option τ :=
  (g.member p).bind fun a => (g.heap a).map f

/-- What the group of a member is for. -/
def devOf (g : Groups κ δ π) (p : κ) : Option δ := g.fieldOf GroupObj.dev p

/-- The number of the group of a member. -/
def numOf (g : Groups κ δ π) (p : κ) : Option ℕ := g.fieldOf GroupObj.num p

/-- The number of each object. -/
def nums (g : Groups κ δ π) (a : ℕ) : Option ℕ := (g.heap a).map GroupObj.num

/-- The objects without their counters. -/
def objs (g : Groups κ δ π) (a : ℕ) : Option (δ × ℕ) := (g.heap a).map fun b => (b.dev, b.num)

section Change

variable [DecidableEq κ]

/-- Become a member of the object at `a`. -/
def join (g : Groups κ δ π) (p : κ) (a : ℕ) (b : GroupObj δ) : Groups κ δ π :=
  { g with
    heap := Function.update g.heap a (some { b with refcount := refcountInc b.refcount })
    member := Function.update g.member p (some a) }

/-- Become the first member of a new object. -/
def start (g : Groups κ δ π) (p : κ) (d : δ) (n : ℕ) (pool : π) : Groups κ δ π where
  heap := Function.update g.heap g.next (some ⟨d, n, 1⟩)
  next := g.next + 1
  member := Function.update g.member p (some g.next)
  pool := pool

/-- Stop to be a member of the object at `a`, and free it if nobody is left. -/
def leave (g : Groups κ δ π) (put : ℕ → ℕ → π → π) (p : κ) (a : ℕ) (b : GroupObj δ) : Groups κ δ π :=
  let d := refcountDecAndTest b.refcount
  if d.1 then
    { g with
      heap := Function.update g.heap a none
      member := Function.update g.member p none
      pool := put a b.num g.pool }
  else
    { g with
      heap := Function.update g.heap a (some { b with refcount := d.2 })
      member := Function.update g.member p none }

end Change

/-- The members of the object at `a`. -/
def members (g : Groups κ δ π) (ports : Finset κ) (a : ℕ) : Finset κ :=
  ports.filter fun p => g.member p = some a

/-- Members have an object, objects count their members, and members of groups for the same thing have
the same object. -/
structure Live (ports : Finset κ) (g : Groups κ δ π) : Prop where
  live : ∀ {p a}, g.member p = some a → p ∈ ports ∧ ∃ b, g.heap a = some b
  counted : ∀ {a b}, g.heap a = some b → a < g.next ∧ RefcountLive b.refcount ∧
    (b.refcount = REFCOUNT_SATURATED ∧ REFCOUNT_MAX < ports.card ∨
      b.refcount = (g.members ports a).card)
  byDev : ∀ {p q a a' b b'}, g.member p = some a → g.member q = some a' → g.heap a = some b →
    g.heap a' = some b' → b.dev = b'.dev → a = a'

/-- Also, objects with the same number are the same, and the pool knows the numbers. -/
structure Sound (ports : Finset κ) (Agrees : π → (ℕ → Option ℕ) → Prop) (g : Groups κ δ π) : Prop
    extends Live ports g where
  byNum : ∀ {a a' b b'}, g.heap a = some b → g.heap a' = some b' → b.num = b'.num → b.num ≠ 0 → a = a'
  agrees : Agrees g.pool g.nums

section Sound

variable {ports : Finset κ} {Agrees : π → (ℕ → Option ℕ) → Prop} {g : Groups κ δ π} {p q : κ}
  {a : ℕ} {b : GroupObj δ} {d : δ} {n : ℕ} {pool : π}

theorem mem_members : q ∈ g.members ports a ↔ q ∈ ports ∧ g.member q = some a := Finset.mem_filter

section Field

variable {τ : Type*} {f : GroupObj δ → τ}

theorem fieldOf_eq (f : GroupObj δ → τ) (h : g.member p = some a) (hb : g.heap a = some b) :
    g.fieldOf f p = some (f b) := by
  rw [fieldOf, h, Option.bind_some, hb, Option.map_some]

theorem fieldOf_cases {x : τ} (h : g.fieldOf f p = some x) :
    ∃ a b, g.member p = some a ∧ g.heap a = some b ∧ f b = x := by
  obtain ⟨a, ha, h⟩ := Option.bind_eq_some_iff.mp h
  obtain ⟨b, hb, hx⟩ := Option.map_eq_some_iff.mp h
  exact ⟨a, b, ha, hb, hx⟩

end Field

/-- **Numbers tell groups apart.** -/
theorem Sound.devOf_of_numOf (h : Sound ports Agrees g) (hp : g.numOf p = some n)
    (hq : g.numOf q = some n) (hn : n ≠ 0) : g.devOf p = g.devOf q := by
  obtain ⟨a, b, ha, hb, rfl⟩ := fieldOf_cases hp
  obtain ⟨a', b', ha', hb', hnum⟩ := fieldOf_cases hq
  have heq := h.byNum hb hb' hnum.symm hn
  subst heq
  rw [hb] at hb'
  cases hb'
  exact (fieldOf_eq _ ha hb).trans (fieldOf_eq _ ha' hb).symm

/-- Members of the same group have the same number. -/
theorem Live.numOf_of_devOf (h : Live ports g) (hp : g.devOf p = some d)
    (hq : g.devOf q = some d) : g.numOf p = g.numOf q := by
  obtain ⟨a, b, ha, hb, rfl⟩ := fieldOf_cases hp
  obtain ⟨a', b', ha', hb', hdev⟩ := fieldOf_cases hq
  have heq := h.byDev ha ha' hb hb' hdev.symm
  subst heq
  rw [hb] at hb'
  cases hb'
  exact (fieldOf_eq _ ha hb).trans (fieldOf_eq _ ha' hb).symm

theorem Live.heap_next (h : Live ports g) : g.heap g.next = none := by
  cases hb : g.heap g.next with
  | none => rfl
  | some b => exact absurd (h.counted hb).1 (lt_irrefl _)

/-- An object has members, if the counter is wide enough for all. -/
theorem Live.exists_member (h : Live ports g) (hcard : (ports.card : ℤ) ≤ REFCOUNT_MAX)
    (hb : g.heap a = some b) : ∃ q, g.member q = some a := by
  obtain ⟨-, hlive, ⟨-, hbig⟩ | hcount⟩ := h.counted hb
  · exact absurd hbig (not_lt.mpr hcard)
  · simp only [RefcountLive, REFCOUNT_SATURATED] at hlive
    have hpos : 0 < (g.members ports a).card := by omega
    obtain ⟨q, hq⟩ := Finset.card_pos.mp hpos
    exact ⟨q, (mem_members.mp hq).2⟩

/-- Nobody is a member of an object at the next address. -/
theorem Live.member_ne_next (h : Live ports g) (x : κ) : g.member x ≠ some g.next := by
  intro hx
  obtain ⟨-, b', hb'⟩ := h.live hx
  rw [h.heap_next] at hb'
  cases hb'

/-- A counter of one has one member. -/
theorem Live.eq_of_one (h : Live ports g) (hp : g.member p = some a) (hb : g.heap a = some b)
    (hone : b.refcount = 1) {x : κ} (hx : g.member x = some a) : x = p := by
  have hcard : (g.members ports a).card = 1 := by
    rcases (h.counted hb).2.2 with ⟨hsat, -⟩ | hcard
    · rw [hone] at hsat
      norm_num at hsat
    · omega
  exact Finset.card_le_one.mp hcard.le x (mem_members.mpr ⟨(h.live hx).1, hx⟩) p
    (mem_members.mpr ⟨(h.live hp).1, hp⟩)

/-- Nobody else has the number of an object. -/
theorem Sound.nums_unique (h : Sound ports Agrees g) (hb : g.heap a = some b) (hn : b.num ≠ 0) (c : ℕ)
    (hc : g.nums c = some b.num) : c = a := by
  obtain ⟨b', hb', hnum⟩ := Option.map_eq_some_iff.mp hc
  refine h.byNum hb' hb hnum ?_
  rwa [hnum]

theorem nums_eq (hb : g.heap a = some b) : g.nums a = some b.num := by
  rw [nums, hb, Option.map_some]

/-- The search finds the object of a member of the group, if there is one. -/
structure Finds (find : Option ℕ) (d : δ) (g : Groups κ δ π) : Prop where
  found : ∀ {a}, find = some a → ∃ q, g.member q = some a ∧ g.devOf q = some d
  missing : find = none → ∀ q, g.devOf q ≠ some d

/-- The object that was found is the group's. -/
theorem Finds.dev_eq {find : Option ℕ} (hf : Finds find d g) (ha : find = some a) (hb : g.heap a = some b) :
    b.dev = d := by
  obtain ⟨q, hq, hdev⟩ := hf.found ha
  rw [devOf, fieldOf_eq _ hq hb] at hdev
  exact Option.some.inj hdev

/-- The numbers after a change of one object. -/
theorem nums_of_heap {o : Option (GroupObj δ)} {g' : Groups κ δ π}
    (hg' : g'.heap = Function.update g.heap a o) :
    g'.nums = Function.update g.nums a (o.map GroupObj.num) := by
  funext x
  rw [nums, hg']
  by_cases hx : x = a
  · rw [hx, Function.update_self, Function.update_self]
  · rw [Function.update_of_ne hx, Function.update_of_ne hx, nums]

/-- A change of a counter leaves all else. -/
theorem map_heap_update {τ : Type*} {f : GroupObj δ → τ} (hf : ∀ b r, f { b with refcount := r } = f b)
    (hb : g.heap a = some b) (r : ℤ) (c : ℕ) :
    (Function.update g.heap a (some { b with refcount := r }) c).map f = (g.heap c).map f := by
  by_cases hc : c = a
  · rw [hc, Function.update_self, hb, Option.map_some, Option.map_some, hf]
  · rw [Function.update_of_ne hc]

theorem nums_update (hb : g.heap a = some b) (r : ℤ) {g' : Groups κ δ π}
    (hg' : g'.heap = Function.update g.heap a (some { b with refcount := r })) :
    g'.nums = g.nums := by
  funext c
  rw [nums, hg']
  exact map_heap_update (fun _ _ => rfl) hb r c

/-- Only the counter of one object changed. -/
theorem heap_update_cases {r : ℤ} {a' : ℕ} {b' : GroupObj δ} (hb : g.heap a = some b)
    (h : Function.update g.heap a (some { b with refcount := r }) a' = some b') :
    ∃ b₀, g.heap a' = some b₀ ∧ b'.dev = b₀.dev ∧ b'.num = b₀.num ∧
      b'.refcount = if a' = a then r else b₀.refcount := by
  by_cases ha : a' = a
  · subst ha
    rw [Function.update_self] at h
    cases h
    exact ⟨b, hb, rfl, rfl, (if_pos rfl).symm⟩
  · rw [Function.update_of_ne ha] at h
    exact ⟨b', h, rfl, rfl, (if_neg ha).symm⟩

/-- The objects after a new one. -/
theorem heap_start_cases {c : ℕ} {b' : GroupObj δ}
    (h : Function.update g.heap g.next (some ⟨d, n, 1⟩) c = some b') :
    c = g.next ∧ b' = ⟨d, n, 1⟩ ∨ c ≠ g.next ∧ g.heap c = some b' := by
  by_cases hc : c = g.next
  · rw [hc, Function.update_self] at h
    exact .inl ⟨hc, (Option.some.inj h).symm⟩
  · rw [Function.update_of_ne hc] at h
    exact .inr ⟨hc, h⟩

/-- The objects after one was freed. -/
theorem heap_erase_cases {c : ℕ} {b' : GroupObj δ} (h : Function.update g.heap a none c = some b') :
    c ≠ a ∧ g.heap c = some b' := by
  by_cases hc : c = a
  · rw [hc, Function.update_self] at h
    cases h
  · rw [Function.update_of_ne hc] at h
    exact ⟨hc, h⟩

section Change

variable [DecidableEq κ]

@[simp] theorem member_join : (g.join p a b).member p = some a := Function.update_self _ _ _

@[simp] theorem heap_join :
    (g.join p a b).heap a = some { b with refcount := refcountInc b.refcount } :=
  Function.update_self _ _ _

@[simp] theorem member_start : (g.start p d n pool).member p = some g.next := Function.update_self _ _ _

@[simp] theorem heap_start : (g.start p d n pool).heap g.next = some ⟨d, n, 1⟩ :=
  Function.update_self _ _ _

/-- One member more. -/
theorem members_insert (hp : p ∈ ports) {g' : Groups κ δ π}
    (hg' : g'.member = Function.update g.member p (some a)) :
    g'.members ports a = insert p (g.members ports a) := by
  ext q
  rw [Finset.mem_insert, mem_members, mem_members, hg']
  by_cases hq : q = p
  · simp [hq, hp]
  · simp [hq]

/-- One member less. -/
theorem members_erase {g' : Groups κ δ π} (hg' : g'.member = Function.update g.member p none) (a : ℕ) :
    g'.members ports a = (g.members ports a).erase p := by
  ext q
  rw [Finset.mem_erase, mem_members, mem_members, hg']
  by_cases hq : q = p
  · simp [hq]
  · simp [hq]

/-- Others keep their members. -/
theorem members_of_ne (hfree : g.member p = none) {a' : ℕ} (hne : a' ≠ a) {g' : Groups κ δ π}
    (hg' : g'.member = Function.update g.member p (some a)) :
    g'.members ports a' = g.members ports a' := by
  ext q
  rw [mem_members, mem_members, hg']
  by_cases hq : q = p
  · simp [hq, hfree, hne.symm]
  · simp [hq]

/-- Who is a member after `p` became one. -/
theorem member_update_cases {x : κ} {c : ℕ}
    (h : Function.update g.member p (some a) x = some c) :
    x = p ∧ c = a ∨ x ≠ p ∧ g.member x = some c := by
  by_cases hx : x = p
  · subst hx
    rw [Function.update_self] at h
    exact .inl ⟨rfl, (Option.some.inj h).symm⟩
  · rw [Function.update_of_ne hx] at h
    exact .inr ⟨hx, h⟩

/-- Who is a member after `p` stopped to be one. -/
theorem member_erase_cases {x : κ} {c : ℕ} (h : Function.update g.member p none x = some c) :
    x ≠ p ∧ g.member x = some c := by
  by_cases hx : x = p
  · subst hx
    rw [Function.update_self] at h
    cases h
  · rw [Function.update_of_ne hx] at h
    exact ⟨hx, h⟩

theorem Live.join (h : Live ports g) (hp : p ∈ ports) (hfree : g.member p = none)
    (hq : g.member q = some a) (hb : g.heap a = some b) : Live ports (g.join p a b) where
  live {x c} hx := by
    have hheap : ∀ c b', g.heap c = some b' → ∃ b', (g.join p a b).heap c = some b' := by
      intro c b' hc
      by_cases hca : c = a
      · exact ⟨_, by rw [hca]; exact Function.update_self _ _ _⟩
      · exact ⟨b', (Function.update_of_ne hca _ _).trans hc⟩
    rcases member_update_cases hx with ⟨rfl, rfl⟩ | ⟨-, hx⟩
    · exact ⟨hp, hheap c b hb⟩
    · obtain ⟨hmem, b', hb'⟩ := h.live hx
      exact ⟨hmem, hheap c b' hb'⟩
  counted {c b'} hc := by
    obtain ⟨b₀, hb₀, -, -, hr⟩ := heap_update_cases hb hc
    obtain ⟨hlt, hlive, hcard⟩ := h.counted hb₀
    refine ⟨hlt, ?_⟩
    by_cases hca : c = a
    · subst hca
      rw [hb] at hb₀
      cases hb₀
      rw [if_pos rfl] at hr
      have hnot : p ∉ g.members ports c := by
        rw [mem_members, hfree]
        exact fun hmem => nomatch hmem.2
      have hle : (g.members ports c).card + 1 ≤ ports.card := by
        rw [← Finset.card_insert_of_notMem hnot]
        exact Finset.card_le_card (Finset.insert_subset hp (Finset.filter_subset _ _))
      rw [hr, members_insert hp rfl, Finset.card_insert_of_notMem hnot]
      refine ⟨hlive.inc.1, ?_⟩
      rcases hcard with ⟨hsat, hbig⟩ | hcard
      · exact .inl ⟨by rw [hsat]; rfl, hbig⟩
      · simp only [RefcountLive, REFCOUNT_SATURATED] at hlive
        rw [refcountInc]
        split
        · exact .inl ⟨rfl, by omega⟩
        · exact .inr (by rw [hcard]; push_cast; rfl)
    · rw [if_neg hca] at hr
      rw [hr, members_of_ne hfree hca rfl]
      exact ⟨hlive, hcard⟩
  byDev {x y c c' b₁ b₂} hx hy hc hc' hdev := by
    obtain ⟨b₁', hb₁, hd₁, -⟩ := heap_update_cases hb hc
    obtain ⟨b₂', hb₂, hd₂, -⟩ := heap_update_cases hb hc'
    rw [hd₁, hd₂] at hdev
    -- the new member has the object of an old one
    have hold : ∀ {x c}, (g.join p a b).member x = some c → ∃ y, g.member y = some c := by
      intro x c hx
      rcases member_update_cases hx with ⟨-, rfl⟩ | ⟨-, hx⟩
      · exact ⟨q, hq⟩
      · exact ⟨x, hx⟩
    obtain ⟨x', hx'⟩ := hold hx
    obtain ⟨y', hy'⟩ := hold hy
    exact h.byDev hx' hy' hb₁ hb₂ hdev

theorem Sound.join (h : Sound ports Agrees g) (hp : p ∈ ports) (hfree : g.member p = none)
    (hq : g.member q = some a) (hb : g.heap a = some b) : Sound ports Agrees (g.join p a b) where
  toLive := h.toLive.join hp hfree hq hb
  byNum {c c' b₁ b₂} hc hc' hnum hn := by
    obtain ⟨b₁', hb₁, -, hn₁, -⟩ := heap_update_cases hb hc
    obtain ⟨b₂', hb₂, -, hn₂, -⟩ := heap_update_cases hb hc'
    rw [hn₁] at hn hnum
    rw [hn₂] at hnum
    exact h.byNum hb₁ hb₂ hnum hn
  agrees := by
    rw [nums_update hb _ rfl]
    exact h.agrees

theorem Live.start (h : Live ports g) (hp : p ∈ ports) (hfree : g.member p = none)
    (hdev : ∀ q, g.devOf q ≠ some d) : Live ports (g.start p d n pool) := by
  have hmembers : g.members ports g.next = ∅ :=
    Finset.filter_eq_empty_iff.mpr fun x _ => h.member_ne_next x
  constructor
  · intro x c hx
    rcases member_update_cases hx with ⟨rfl, rfl⟩ | ⟨-, hx⟩
    · exact ⟨hp, _, Function.update_self _ _ _⟩
    · obtain ⟨hmem, b', hb'⟩ := h.live hx
      refine ⟨hmem, b', (Function.update_of_ne ?_ _ _).trans hb'⟩
      rintro rfl
      exact h.member_ne_next x hx
  · intro c b' hc
    rcases heap_start_cases hc with ⟨rfl, rfl⟩ | ⟨hne, hc⟩
    · refine ⟨Nat.lt_succ_self _, .one, .inr ?_⟩
      rw [members_insert hp rfl, hmembers]
      rfl
    · obtain ⟨hlt, hlive, hcard⟩ := h.counted hc
      rw [members_of_ne hfree hne rfl]
      exact ⟨Nat.lt_succ_of_lt hlt, hlive, hcard⟩
  · intro x y c c' b₁ b₂ hx hy hc hc' hd
    rcases member_update_cases hx with ⟨-, rfl⟩ | ⟨-, hx⟩ <;>
      rcases member_update_cases hy with ⟨-, rfl⟩ | ⟨-, hy⟩
    · rfl
    · rcases heap_start_cases hc with ⟨-, rfl⟩ | ⟨hne, -⟩
      · rcases heap_start_cases hc' with ⟨rfl, -⟩ | ⟨-, hc'⟩
        · rfl
        · refine absurd ?_ (hdev y)
          rw [devOf, fieldOf_eq _ hy hc', ← hd]
      · exact absurd rfl hne
    · rcases heap_start_cases hc' with ⟨-, rfl⟩ | ⟨hne, -⟩
      · rcases heap_start_cases hc with ⟨rfl, -⟩ | ⟨-, hc⟩
        · rfl
        · refine absurd ?_ (hdev x)
          rw [devOf, fieldOf_eq _ hx hc, hd]
      · exact absurd rfl hne
    · rcases heap_start_cases hc with ⟨rfl, -⟩ | ⟨-, hc⟩
      · exact absurd hx (h.member_ne_next x)
      · rcases heap_start_cases hc' with ⟨rfl, -⟩ | ⟨-, hc'⟩
        · exact absurd hy (h.member_ne_next y)
        · exact h.byDev hx hy hc hc' hd

theorem Sound.start (h : Sound ports Agrees g) (hp : p ∈ ports) (hfree : g.member p = none)
    (hdev : ∀ q, g.devOf q ≠ some d) (hnum : n ≠ 0 → ∀ a, g.nums a ≠ some n)
    (hpool : Agrees pool (Function.update g.nums g.next (some n))) :
    Sound ports Agrees (g.start p d n pool) where
  toLive := h.toLive.start hp hfree hdev
  byNum {c c' b₁ b₂} hc hc' hnums hn := by
    rcases heap_start_cases hc with ⟨rfl, rfl⟩ | ⟨-, hc⟩ <;>
      rcases heap_start_cases hc' with ⟨rfl, rfl⟩ | ⟨-, hc'⟩
    · rfl
    · refine absurd ?_ (hnum hn c')
      rw [nums, hc', Option.map_some, ← hnums]
    · rw [hnums] at hn
      refine absurd ?_ (hnum hn c)
      rw [nums, hc, Option.map_some, hnums]
    · exact h.byNum hc hc' hnums hn
  agrees := by
    rw [nums_of_heap rfl]
    exact hpool

/-- What is left after a leave had its number before. -/
theorem heap_leave_num {put : ℕ → ℕ → π → π} {c : ℕ} {b' : GroupObj δ} (hb : g.heap a = some b)
    (h : (g.leave put p a b).heap c = some b') : ∃ b₀, g.heap c = some b₀ ∧ b₀.num = b'.num := by
  simp only [Groups.leave] at h
  split at h
  · exact ⟨b', (heap_erase_cases h).2, rfl⟩
  · obtain ⟨b₀, hb₀, -, hn, -⟩ := heap_update_cases hb h
    exact ⟨b₀, hb₀, hn.symm⟩

theorem Live.leave {put : ℕ → ℕ → π → π} (h : Live ports g) (hp : g.member p = some a)
    (hb : g.heap a = some b) : Live ports (g.leave put p a b) := by
  obtain ⟨hlt, hlive, hcard⟩ := h.counted hb
  have hmem : p ∈ g.members ports a := mem_members.mpr ⟨(h.live hp).1, hp⟩
  simp only [Groups.leave]
  by_cases hone : b.refcount = 1
  · -- the last member
    simp only [hone, refcountDecAndTest, if_true]
    constructor
    · intro x c hx
      obtain ⟨hxp, hold⟩ := member_erase_cases hx
      obtain ⟨hin, b', hb'⟩ := h.live hold
      refine ⟨hin, b', (Function.update_of_ne ?_ _ _).trans hb'⟩
      rintro rfl
      exact hxp (h.eq_of_one hp hb hone hold)
    · intro c b' hc
      obtain ⟨hne, hc⟩ := heap_erase_cases hc
      obtain ⟨hlt, hlive, hcard⟩ := h.counted hc
      have hnot : p ∉ g.members ports c := by
        rw [mem_members, hp]
        rintro ⟨-, hac⟩
        exact hne (Option.some.inj hac).symm
      rw [members_erase rfl, Finset.erase_eq_of_notMem hnot]
      exact ⟨hlt, hlive, hcard⟩
    · intro x y c c' b₁ b₂ hx hy hc hc' hd
      exact h.byDev (member_erase_cases hx).2 (member_erase_cases hy).2 (heap_erase_cases hc).2
        (heap_erase_cases hc').2 hd
  · obtain ⟨hfalse, hlive', hrefs⟩ := hlive.dec hone
    simp only [hfalse, Bool.false_eq_true, if_false]
    constructor
    · intro x c hx
      obtain ⟨hin, b', hb'⟩ := h.live (member_erase_cases hx).2
      refine ⟨hin, ?_⟩
      by_cases hca : c = a
      · exact ⟨_, by rw [hca]; exact Function.update_self _ _ _⟩
      · exact ⟨b', (Function.update_of_ne hca _ _).trans hb'⟩
    · intro c b' hc
      obtain ⟨b₀, hb₀, -, -, hr⟩ := heap_update_cases hb hc
      obtain ⟨hlt, hlive, hcard⟩ := h.counted hb₀
      rw [members_erase rfl]
      refine ⟨hlt, ?_⟩
      by_cases hca : c = a
      · subst hca
        rw [hb] at hb₀
        cases hb₀
        rw [if_pos rfl] at hr
        rw [hr, Finset.card_erase_of_mem hmem]
        refine ⟨hlive', ?_⟩
        have hpos := Finset.card_pos.mpr ⟨p, hmem⟩
        rcases hcard with ⟨hsat, hbig⟩ | hcard
        · refine .inl ⟨?_, hbig⟩
          rw [hsat]
          rfl
        · right
          rw [refcountDecAndTest, if_neg hone, if_neg (by omega)]
          omega
      · rw [if_neg hca] at hr
        have hnot : p ∉ g.members ports c := by
          rw [mem_members, hp]
          rintro ⟨-, hac⟩
          exact hca (Option.some.inj hac).symm
        rw [hr, Finset.erase_eq_of_notMem hnot]
        exact ⟨hlive, hcard⟩
    · intro x y c c' b₁ b₂ hx hy hc hc' hd
      obtain ⟨b₁', hb₁, hd₁, -⟩ := heap_update_cases hb hc
      obtain ⟨b₂', hb₂, hd₂, -⟩ := heap_update_cases hb hc'
      rw [hd₁, hd₂] at hd
      exact h.byDev (member_erase_cases hx).2 (member_erase_cases hy).2 hb₁ hb₂ hd

theorem Sound.leave {put : ℕ → ℕ → π → π} (h : Sound ports Agrees g) (hp : g.member p = some a)
    (hb : g.heap a = some b) (hpool : Agrees (put a b.num g.pool) (Function.update g.nums a none)) :
    Sound ports Agrees (g.leave put p a b) := by
  refine ⟨h.toLive.leave hp hb, ?_, ?_⟩
  · intro c c' b₁ b₂ hc hc' hnum hn
    obtain ⟨b₁', hb₁, hn₁⟩ := heap_leave_num hb hc
    obtain ⟨b₂', hb₂, hn₂⟩ := heap_leave_num hb hc'
    rw [← hn₁] at hn hnum
    rw [← hn₂] at hnum
    exact h.byNum hb₁ hb₂ hnum hn
  · simp only [Groups.leave]
    split
    · rw [nums_of_heap rfl]
      exact hpool
    · rw [nums_update hb _ rfl]
      exact h.agrees

section Field

variable {τ : Type*} {f : GroupObj δ → τ}

/-- The new member reads what the others read. -/
theorem fieldOf_join (hf : ∀ b r, f { b with refcount := r } = f b) (hb : g.heap a = some b) (q : κ) :
    (g.join p a b).fieldOf f q = if q = p then some (f b) else g.fieldOf f q := by
  have hheap : ∀ c, ((g.join p a b).heap c).map f = (g.heap c).map f := map_heap_update hf hb _
  simp only [fieldOf, hheap]
  by_cases hq : q = p
  · rw [if_pos hq, hq]
    simp [Groups.join, hb]
  · rw [if_neg hq]
    simp [Groups.join, hq]

theorem Live.fieldOf_start (h : Live ports g) (f : GroupObj δ → τ) (q : κ) :
    (g.start p d n pool).fieldOf f q = if q = p then some (f ⟨d, n, 1⟩) else g.fieldOf f q := by
  by_cases hq : q = p
  · rw [if_pos hq, hq]
    simp [fieldOf, Groups.start]
  · rw [if_neg hq]
    simp only [fieldOf, Groups.start, Function.update_of_ne hq]
    cases hm : g.member q with
    | none => rfl
    | some c =>
        have hne : c ≠ g.next := by
          rintro rfl
          exact h.member_ne_next q hm
        rw [Option.bind_some, Option.bind_some, Function.update_of_ne hne]

/-- The others keep what they read. -/
theorem Live.fieldOf_leave {put : ℕ → ℕ → π → π} (h : Live ports g)
    (hf : ∀ b r, f { b with refcount := r } = f b) (hp : g.member p = some a)
    (hb : g.heap a = some b) (q : κ) :
    (g.leave put p a b).fieldOf f q = if q = p then none else g.fieldOf f q := by
  by_cases hq : q = p
  · rw [if_pos hq, hq]
    simp only [fieldOf, Groups.leave]
    split <;> simp
  rw [if_neg hq]
  simp only [fieldOf, Groups.leave]
  split
  · next hfree =>
    simp only [Function.update_of_ne hq]
    cases hm : g.member q with
    | none => rfl
    | some c =>
        -- the object that was freed had no other member
        have hne : c ≠ a := by
          rintro rfl
          exact hq (h.eq_of_one hp hb (refcountDecAndTest_eq_true hfree) hm)
        rw [Option.bind_some, Option.bind_some, Function.update_of_ne hne]
  · simp only [Function.update_of_ne hq]
    cases hm : g.member q with
    | none => rfl
    | some c =>
        rw [Option.bind_some, Option.bind_some]
        exact map_heap_update hf hb _ c

end Field

/-! ## Requests to join -/

/-- A request to join found the object of the group, or allocated one with a number from the pool. -/
inductive Created (find : Option ℕ) (d : δ) (alloc : ℕ → π → Prop) (p : κ) (g : Groups κ δ π) :
    Groups κ δ π → Prop
  | old {a : ℕ} {b : GroupObj δ} : find = some a → g.heap a = some b →
      Created find d alloc p g (g.join p a b)
  | new {n : ℕ} {pool : π} : find = none → alloc n pool →
      Created find d alloc p g (g.start p d n pool)

/-- The result of a request to join: it was refused, it succeeded, or it failed later and was undone. -/
inductive Joined (find : Option ℕ) (d : δ) (alloc : ℕ → π → Prop) (put : ℕ → ℕ → π → π) (p : κ)
    (g : Groups κ δ π) : ℤ → Groups κ δ π → Prop
  | refused {err : ℤ} : err ≠ 0 → Joined find d alloc put p g err g
  | joined {g' : Groups κ δ π} : Created find d alloc p g g' → Joined find d alloc put p g 0 g'
  | undone {err : ℤ} {g' : Groups κ δ π} {a : ℕ} {b : GroupObj δ} : err ≠ 0 →
      Created find d alloc p g g' → g'.member p = some a → g'.heap a = some b →
      Joined find d alloc put p g err (g'.leave put p a b)

section Request

variable {find : Option ℕ} {alloc : ℕ → π → Prop} {put : ℕ → ℕ → π → π} {g' : Groups κ δ π} {err : ℤ}

/-- The new member is in its group, the others are where they were. -/
theorem Live.devOf_created (h : Live ports g) (hf : Finds find d g)
    (hc : Created find d alloc p g g') (q : κ) :
    g'.devOf q = if q = p then some d else g.devOf q := by
  rcases hc with ⟨ha, hb⟩ | ⟨-, -⟩
  · rw [← hf.dev_eq ha hb]
    exact fieldOf_join (fun _ _ => rfl) hb q
  · exact h.fieldOf_start _ q

theorem Live.created (h : Live ports g) (hp : p ∈ ports) (hfree : g.member p = none)
    (hf : Finds find d g) (hc : Created find d alloc p g g') : Live ports g' := by
  rcases hc with ⟨ha, hb⟩ | ⟨hnone, -⟩
  · obtain ⟨q, hq, -⟩ := hf.found ha
    exact h.join hp hfree hq hb
  · exact h.start hp hfree (hf.missing hnone)

theorem Sound.created (h : Sound ports Agrees g) (hp : p ∈ ports) (hfree : g.member p = none)
    (hf : Finds find d g)
    (halloc : ∀ n pool, find = none → alloc n pool → (n ≠ 0 → ∀ a, g.nums a ≠ some n) ∧
      Agrees pool (Function.update g.nums g.next (some n)))
    (hc : Created find d alloc p g g') : Sound ports Agrees g' := by
  rcases hc with ⟨ha, hb⟩ | ⟨hnone, hn⟩
  · obtain ⟨q, hq, -⟩ := hf.found ha
    exact h.join hp hfree hq hb
  · obtain ⟨hfresh, hpool⟩ := halloc _ _ hnone hn
    exact h.start hp hfree (hf.missing hnone) hfresh hpool

/-- The new member has an object. -/
theorem Created.member_eq (hc : Created find d alloc p g g') :
    ∃ a b, g'.member p = some a ∧ g'.heap a = some b := by
  rcases hc with ⟨-, -⟩ | ⟨-, -⟩
  · exact ⟨_, _, member_join, heap_join⟩
  · exact ⟨_, _, member_start, heap_start⟩

theorem member_leave : (g.leave put p a b).member = Function.update g.member p none := by
  simp only [Groups.leave]
  split <;> rfl

/-- The others are members of what they were. -/
theorem Created.member_of_ne (hc : Created find d alloc p g g') (hq : q ≠ p) :
    g'.member q = g.member q := by
  rcases hc with ⟨-, -⟩ | ⟨-, -⟩
  · exact Function.update_of_ne hq _ _
  · exact Function.update_of_ne hq _ _

theorem Joined.member_of_ne (hj : Joined find d alloc put p g err g') (hq : q ≠ p) :
    g'.member q = g.member q := by
  rcases hj with - | hc | ⟨-, hc, -, -⟩
  · rfl
  · exact hc.member_of_ne hq
  · rw [member_leave, Function.update_of_ne hq]
    exact hc.member_of_ne hq

theorem Live.joined (h : Live ports g) (hp : p ∈ ports) (hfree : g.member p = none)
    (hf : Finds find d g) (hj : Joined find d alloc put p g err g') : Live ports g' := by
  rcases hj with - | hc | ⟨-, hc, ha, hb⟩
  · exact h
  · exact h.created hp hfree hf hc
  · exact (h.created hp hfree hf hc).leave ha hb

/-- **A failed join is undone**, if the pool takes back what it gave. -/
theorem Live.undone (h : Live ports g) (hfree : g.member p = none)
    (hundo : ∀ n pool, find = none → alloc n pool → put g.next n pool = g.pool)
    (hj : Joined find d alloc put p g err g') (herr : err ≠ 0) :
    g'.member = g.member ∧ g'.objs = g.objs ∧ g'.pool = g.pool := by
  rcases hj with - | - | @⟨_, g₁, a, b, -, hc, ha, hb⟩
  · exact ⟨rfl, rfl, rfl⟩
  · exact absurd rfl herr
  have hmember : ∀ a, Function.update (Function.update g.member p (some a)) p none = g.member := by
    intro a
    rw [Function.update_idem, ← hfree, Function.update_eq_self]
  rcases hc with @⟨a₀, b₀, -, hb₀⟩ | @⟨n, pool, hnone, hn⟩
  · -- the counter goes up and down again
    obtain rfl : a₀ = a := Option.some.inj (member_join.symm.trans ha)
    obtain rfl := Option.some.inj (heap_join.symm.trans hb)
    have hne : refcountInc b₀.refcount ≠ 1 := by
      have hlive := (h.counted hb₀).2.1
      simp only [RefcountLive, REFCOUNT_SATURATED] at hlive
      simp only [refcountInc, REFCOUNT_SATURATED]
      split <;> omega
    have hlast := (((h.counted hb₀).2.1.inc.1).dec hne).1
    simp only [Groups.leave, hlast, Bool.false_eq_true, if_false]
    refine ⟨hmember a₀, ?_, rfl⟩
    funext c
    simp only [objs, Groups.join, Function.update_idem]
    exact map_heap_update (fun _ _ => rfl) hb₀ _ c
  · obtain rfl : g.next = a := Option.some.inj (member_start.symm.trans ha)
    obtain rfl := Option.some.inj (heap_start.symm.trans hb)
    have hlast : (refcountDecAndTest 1).1 = true := rfl
    simp only [Groups.leave, hlast, if_true]
    refine ⟨hmember g.next, ?_, hundo n pool hnone hn⟩
    funext c
    simp only [objs, Groups.start, Function.update_idem]
    rw [← h.heap_next, Function.update_eq_self]

end Request

end Change

end Sound

end Groups

end Common
