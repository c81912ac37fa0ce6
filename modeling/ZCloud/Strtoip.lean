import ZCloud.Common
import ZCloud.Lib.Decimal

open Memory Decimal

namespace ZCloud

/-- The result of an operation on `int`. -/
def i32 (x : Int) : Int := Int.bmod x 4294967296

def atodec (ch : UInt8) : Int := if 48 ≤ ch.toNat ∧ ch.toNat ≤ 57 then ch.toNat - 48 else -1

/-- The loop of `strtodec` on the object that begins at `str`: `i` and `dd` at its end,
unless it returns from within the loop. -/
def strtodecLoop : (str : List UInt8) → (i dd : Int) → Except Fault (Option (Int × Int))
  | [], _, _ => .error .read
  | ch :: str, i, dd =>
    if ch = 0 then .ok (some (i, dd))
    else if atodec ch < 0 then .ok none
    else strtodecLoop str (atodec ch) (i32 (dd * 10 + atodec ch))

/-- The decimal number at `str`, which may have a minus sign. The second result is what
is stored at `dec`, if anything is. -/
def strtodec (str : List UInt8) : Except Fault (Int × Option Int) := do
  let ch ← loadU8 str 0
  let sign : Int := if ch = 45 then -1 else 1
  match ← strtodecLoop (if ch = 45 then str.drop 1 else str) (-1) 0 with
  | none => return (-1, none)
  | some (i, dd) => return (if i < 0 then -1 else 0, some (i32 (dd * sign)))

/-- One number of an address: `strtodec` at `head`, and the check of the range. -/
def readOctet (head : List UInt8) : Except Fault (Option Nat) := do
  match ← strtodec head with
  | (ret, some n) => return if ret < 0 ∨ n < 0 ∨ n > 255 then none else some n.toNat
  | (_, none) => return none

/-- The loop of `strtoip`. The object is `before ++ part ++ rest`, `head` points behind
`before`, and `tail` behind `part`, and `left` dots are still to come. The first result is the object, the second `ip` and what is
at `head` after the loop, unless it returns from within the loop. -/
def strtoipLoop : (before part rest : List UInt8) → (left ip : Nat) →
    Except Fault (List UInt8 × Option (Nat × List UInt8))
  | before, part, rest, 0, ip => .ok (before ++ part ++ rest, some (ip, part ++ rest))
  | _, _, [], _ + 1, _ => .error .read
  | before, part, ch :: rest, left + 1, ip =>
    if ch = 46 then do
      -- the dot is a terminator while its number is read, and a dot again behind it
      match ← readOctet (part ++ 0 :: rest) with
      | none => return (before ++ part ++ 0 :: rest, none)
      | some n => strtoipLoop (before ++ part ++ [46]) [] rest left (u32 (u32 (ip * 256) + n))
    else strtoipLoop before (part ++ [ch]) rest (left + 1) ip

/-- The address at `str`: what is returned, what is stored at `ipadr`, if anything is,
and the object as it is then. -/
def strtoip (str : List UInt8) : Except Fault (Int × Option Nat × List UInt8) := do
  match ← strtoipLoop [] [] str 3 0 with
  | (str, none) => return (-1, none, str)
  | (str, some (ip, head)) =>
    match ← readOctet head with
    | none => return (-1, none, str)
    | some n =>
      let ip := u32 (u32 (ip * 256) + n)
      return (if ip = 0 then -1 else 0, some ip, str)

/-- Four strings with dots between them. -/
def dotted (p q r t : List UInt8) : List UInt8 := p ++ 46 :: (q ++ 46 :: (r ++ 46 :: t))

/-- The address `ip` as a string. -/
def iptostr (ip : Nat) : List UInt8 :=
  dotted (digits (ip >>> 24 &&& 255)) (digits (ip >>> 16 &&& 255)) (digits (ip >>> 8 &&& 255))
    (digits (ip &&& 255)) ++ [0]

/-- A decimal number in 0..255. -/
structure Octet (part : List UInt8) (n : Nat) : Prop where
  ne_nil : part ≠ []
  digits : ∀ ch ∈ part, IsDigit ch
  value_eq : value part = n
  le : n ≤ 255

/-- A decimal number that is in 0..255 when it is taken modulo 2^32. It may have a
minus sign. -/
structure WrappedOctet (part : List UInt8) (n : Nat) : Prop where
  read : ∃ ds, ds ≠ [] ∧ (∀ ch ∈ ds, IsDigit ch) ∧
    (part = ds ∧ (value ds : Int) % 4294967296 = n ∨ part = 45 :: ds ∧ -(value ds : Int) % 4294967296 = n)
  le : n ≤ 255

/-- The address with the numbers `a`, `b`, `c` and `d`. -/
def quad (a b c d : Nat) : Nat := ((a * 256 + b) * 256 + c) * 256 + d

/-- The string is the address `ip` in dotted form. -/
def Dotted (s : List UInt8) (ip : Nat) : Prop :=
  ∃ p a q b r c t d, s = dotted p q r t ∧ Octet p a ∧ Octet q b ∧ Octet r c ∧ Octet t d ∧
    ip = quad a b c d

variable {part : List UInt8} {n : Nat}

theorem Octet.wrapped (h : Octet part n) : WrappedOctet part n := by
  have hle := h.le
  exact ⟨⟨part, h.ne_nil, h.digits, .inl ⟨rfl, by rw [h.value_eq]; omega⟩⟩, hle⟩

theorem IsDigit.atodec {ch : UInt8} (h : IsDigit ch) : ch ≠ 0 ∧ ch ≠ 45 ∧ ch ≠ 46 ∧ 0 ≤ atodec ch ∧
    ZCloud.atodec ch = (ch.toNat : Int) - 48 := by
  obtain ⟨hlow, hhigh⟩ := h
  refine ⟨?_, ?_, ?_, ?_, if_pos ⟨hlow, hhigh⟩⟩
  · rintro rfl
    exact absurd hlow (by decide)
  · rintro rfl
    exact absurd hlow (by decide)
  · rintro rfl
    exact absurd hlow (by decide)
  · rw [ZCloud.atodec, if_pos ⟨hlow, hhigh⟩]
    omega

/-- Digits are read up to the terminator. -/
theorem strtodecLoop_digits (hpart : ∀ ch ∈ part, IsDigit ch) (rest : List UInt8) (i dd : Int) :
    ∃ i', (part = [] → i' = i) ∧ (part ≠ [] → 0 ≤ i') ∧ strtodecLoop (part ++ 0 :: rest) i dd =
      .ok (some (i', part.foldl (fun dd ch => i32 (dd * 10 + ((ch.toNat : Int) - 48))) dd)) := by
  induction part generalizing i dd with
  | nil => exact ⟨i, fun _ => rfl, fun h => absurd rfl h, by simp [strtodecLoop]⟩
  | cons ch part ih =>
    obtain ⟨hzero, -, -, hpos, hvalue⟩ := IsDigit.atodec (hpart ch List.mem_cons_self)
    obtain ⟨i', hnil, hcons, hrun⟩ := ih (fun ch hch => hpart ch (List.mem_cons_of_mem _ hch)) (atodec ch)
      (i32 (dd * 10 + atodec ch))
    refine ⟨i', nofun, fun _ => ?_, ?_⟩
    · by_cases hpart' : part = []
      · rw [hnil hpart']
        exact hpos
      · exact hcons hpart'
    · rw [List.cons_append, strtodecLoop, if_neg hzero, if_neg (by omega), hrun, List.foldl_cons, hvalue]

/-- Anything else ends the loop. -/
theorem strtodecLoop_other (hzero : (0 : UInt8) ∉ part) (hpart : ¬ ∀ ch ∈ part, IsDigit ch) (rest : List UInt8)
    (i dd : Int) : strtodecLoop (part ++ 0 :: rest) i dd = .ok none := by
  induction part generalizing i dd with
  | nil => exact absurd (fun _ h => absurd h List.not_mem_nil) hpart
  | cons ch part ih =>
    have hch : ch ≠ 0 := fun h => hzero (h ▸ List.mem_cons_self)
    rw [List.cons_append, strtodecLoop, if_neg hch]
    by_cases hdigit : IsDigit ch
    · rw [if_neg (Int.not_lt.mpr (IsDigit.atodec hdigit).2.2.2.1)]
      refine ih (fun h => hzero (List.mem_cons_of_mem _ h)) (fun h => hpart fun x hx => ?_) _ _
      rcases List.mem_cons.mp hx with rfl | hx
      · exact hdigit
      · exact h x hx
    · exact if_pos (by rw [atodec, if_neg (show ¬(48 ≤ ch.toNat ∧ ch.toNat ≤ 57) from hdigit)]; decide)

theorem i32_octet (x : Int) (n : Nat) :
    (¬(i32 x < 0 ∨ i32 x > 255) ∧ (i32 x).toNat = n) ↔ n ≤ 255 ∧ x % 4294967296 = n := by
  simp only [i32, Int.bmod_def]
  omega

theorem i32_value {ds : List UInt8} (hds : ∀ ch ∈ ds, IsDigit ch) :
    ds.foldl (fun dd ch => i32 (dd * 10 + ((ch.toNat : Int) - 48))) 0 = i32 (value ds) := by
  have hwrap : ds.foldl (fun dd ch => i32 (dd * 10 + ((ch.toNat : Int) - 48))) (i32 0) =
      i32 (ds.foldl (fun dd ch => dd * 10 + ((ch.toNat : Int) - 48)) 0) :=
    foldl_bmod 4294967296 (fun ch => (ch.toNat : Int) - 48) ds 0
  rw [show i32 0 = 0 from Int.zero_bmod] at hwrap
  rw [hwrap, value]
  exact congrArg i32 (foldl_cast hds 0)

/-- A number of an address is read as what it is modulo 2^32, and nothing else is. -/
theorem readOctet_spec (hzero : (0 : UInt8) ∉ part) (rest : List UInt8) :
    ∃ o, readOctet (part ++ 0 :: rest) = .ok o ∧ ∀ n, o = some n ↔ WrappedOctet part n := by
  -- behind the sign, if there is one
  have hread : ∀ (ds : List UInt8) (sign : Int), (0 : UInt8) ∉ ds →
      strtodec (part ++ 0 :: rest) = (do
        match ← strtodecLoop (ds ++ 0 :: rest) (-1) 0 with
        | none => return (-1, none)
        | some (i, dd) => return (if i < 0 then -1 else 0, some (i32 (dd * sign)))) →
      ∃ o, readOctet (part ++ 0 :: rest) = .ok o ∧ ∀ n, o = some n ↔
        ds ≠ [] ∧ (∀ ch ∈ ds, IsDigit ch) ∧ (value ds : Int) * sign % 4294967296 = n ∧ n ≤ 255 := by
    intro ds sign hzero' hdec
    by_cases hds : ∀ ch ∈ ds, IsDigit ch
    · obtain ⟨i, hnil, hcons, hrun⟩ := strtodecLoop_digits hds rest (-1) 0
      rw [i32_value hds] at hrun
      rw [hrun] at hdec
      have hmul : i32 (i32 (value ds) * sign) = i32 (value ds * sign) := Int.bmod_mul_bmod
      by_cases hempty : ds = []
      · refine ⟨none, ?_, fun n => ⟨nofun, fun h => absurd hempty h.1⟩⟩
        rw [readOctet, hdec, hnil hempty]
        rfl
      · refine ⟨if i32 (value ds * sign) < 0 ∨ i32 (value ds * sign) > 255 then none
          else some (i32 (value ds * sign)).toNat, ?_, fun n => ?_⟩
        · simp only [readOctet, hdec, ok_bind, hmul, Int.not_lt.mpr (hcons hempty), if_false, pure, Except.pure, Int.lt_irrefl,
            false_or]
        · have := i32_octet (value ds * sign) n
          split
          · simp only [reduceCtorEq, false_iff]
            rintro ⟨-, -, hmod, hle⟩
            exact absurd ‹_› (this.mpr ⟨hle, hmod⟩).1
          · simp only [Option.some.injEq]
            constructor
            · intro heq
              obtain ⟨hle, hmod⟩ := this.mp ⟨‹_›, heq⟩
              exact ⟨hempty, hds, hmod, hle⟩
            · rintro ⟨-, -, hmod, hle⟩
              exact (this.mpr ⟨hle, hmod⟩).2
    · refine ⟨none, ?_, fun n => ⟨nofun, fun h => absurd h.2.1 hds⟩⟩
      rw [readOctet, hdec, strtodecLoop_other hzero' hds]
      rfl
  by_cases hsign : part.head? = some 45
  · obtain ⟨ds, rfl⟩ : ∃ ds, part = 45 :: ds := by
      cases part with
      | nil => cases hsign
      | cons ch ds => exact ⟨ds, by rw [Option.some.inj hsign]⟩
    obtain ⟨o, hrun, ho⟩ := hread ds (-1) (fun h => hzero (List.mem_cons_of_mem _ h)) rfl
    refine ⟨o, hrun, fun n => (ho n).trans ?_⟩
    constructor
    · rintro ⟨hne, hds, hmod, hle⟩
      exact ⟨⟨ds, hne, hds, .inr ⟨rfl, by rw [← hmod, Int.mul_neg_one]⟩⟩, hle⟩
    · rintro ⟨⟨ds', hne, hds, ⟨rfl, -⟩ | ⟨heq, hmod⟩⟩, hle⟩
      · exact absurd rfl (IsDigit.atodec (hds 45 List.mem_cons_self)).2.1
      · obtain rfl := (List.cons.inj heq).2
        exact ⟨hne, hds, by rw [Int.mul_neg_one]; exact hmod, hle⟩
  · obtain ⟨o, hrun, ho⟩ := hread part 1 hzero (by
      cases part with
      | nil => rfl
      | cons ch ds =>
        have hch : ch ≠ 45 := fun h => hsign (congrArg some h)
        simp [strtodec, loadU8, load, hch])
    refine ⟨o, hrun, fun n => (ho n).trans ?_⟩
    constructor
    · rintro ⟨hne, hds, hmod, hle⟩
      exact ⟨⟨part, hne, hds, .inl ⟨rfl, by rw [← hmod, Int.mul_one]⟩⟩, hle⟩
    · rintro ⟨⟨ds', hne, hds, ⟨rfl, hmod⟩ | ⟨rfl, -⟩⟩, hle⟩
      · exact ⟨hne, hds, by rw [Int.mul_one]; exact hmod, hle⟩
      · exact absurd rfl hsign

theorem WrappedOctet.chars (h : WrappedOctet part n) : (0 : UInt8) ∉ part ∧ (46 : UInt8) ∉ part := by
  obtain ⟨⟨ds, -, hds, ⟨rfl, -⟩ | ⟨rfl, -⟩⟩, -⟩ := h
  · exact ⟨fun hmem => (IsDigit.atodec (hds 0 hmem)).1 rfl, fun hmem => (IsDigit.atodec (hds 46 hmem)).2.2.1 rfl⟩
  · constructor
    · intro hmem
      exact (IsDigit.atodec (hds 0 ((List.mem_cons.mp hmem).resolve_left (by decide)))).1 rfl
    · intro hmem
      exact (IsDigit.atodec (hds 46 ((List.mem_cons.mp hmem).resolve_left (by decide)))).2.2.1 rfl

theorem WrappedOctet.unique {m : Nat} (h : WrappedOctet part n) (h' : WrappedOctet part m) : n = m := by
  obtain ⟨o, -, ho⟩ := readOctet_spec h.chars.1 []
  exact Option.some.inj (((ho n).mpr h).symm.trans ((ho m).mpr h'))

/-- The part of a string before its first dot. -/
theorem append_dot_inj {p p' t t' : List UInt8} (hp : (46 : UInt8) ∉ p) (hp' : (46 : UInt8) ∉ p')
    (h : p ++ 46 :: t = p' ++ 46 :: t') : p = p' ∧ t = t' := by
  have htake : ∀ {p t : List UInt8}, (46 : UInt8) ∉ p → (p ++ 46 :: t).takeWhile (· != 46) = p := by
    intro p t hp
    have hall : ∀ ch ∈ p, (ch != 46) = true := fun ch hch => bne_iff_ne.mpr fun h => hp (h ▸ hch)
    rw [List.takeWhile_append_of_pos hall]
    simp
  have heq : p = p' := by rw [← htake hp, h, htake hp']
  subst heq
  exact ⟨rfl, (List.cons.inj (List.append_cancel_left h)).2⟩

theorem strtoipLoop_skip (before part rest : List UInt8) (left ip : Nat) {u : List UInt8} (hu : (46 : UInt8) ∉ u) :
    strtoipLoop before part (u ++ rest) (left + 1) ip = strtoipLoop before (part ++ u) rest (left + 1) ip := by
  induction u generalizing part with
  | nil => simp
  | cons ch u ih =>
    have hch : ch ≠ 46 := fun h => hu (h ▸ List.mem_cons_self)
    rw [List.cons_append, strtoipLoop, if_neg hch, ih _ fun h => hu (List.mem_cons_of_mem _ h), List.append_assoc]
    rfl

/-- What becomes of the string `s`: its first number is read up to its first dot, or
the loop reads on behind its terminator, or it leaves a terminator for the dot. -/
theorem strtoipLoop_cases {s : List UInt8} (hs : (0 : UInt8) ∉ s) (before : List UInt8) (left ip : Nat) :
    (∃ p a t, s = p ++ 46 :: t ∧ WrappedOctet p a ∧ strtoipLoop before [] (s ++ [0]) (left + 1) ip =
      strtoipLoop (before ++ p ++ [46]) [] (t ++ [0]) left (u32 (u32 (ip * 256) + a))) ∨
    (∀ p a t, s = p ++ 46 :: t → ¬ WrappedOctet p a) ∧
      (strtoipLoop before [] (s ++ [0]) (left + 1) ip = .error .read ∨
        ∃ str, str ≠ before ++ s ++ [0] ∧ strtoipLoop before [] (s ++ [0]) (left + 1) ip = .ok (str, none)) := by
  by_cases hdot : (46 : UInt8) ∈ s
  · obtain ⟨p, t, rfl, hp⟩ := List.eq_append_cons_of_mem hdot
    have hzero : (0 : UInt8) ∉ p := fun h => hs (List.mem_append_left _ h)
    have hrun : strtoipLoop before [] (p ++ 46 :: t ++ [0]) (left + 1) ip = (do
        match ← readOctet (p ++ 0 :: (t ++ [0])) with
        | none => return (before ++ p ++ 0 :: (t ++ [0]), none)
        | some n => strtoipLoop (before ++ p ++ [46]) [] (t ++ [0]) left (u32 (u32 (ip * 256) + n))) := by
      rw [List.append_assoc, List.cons_append, strtoipLoop_skip _ _ _ _ _ hp]
      rfl
    obtain ⟨o, hread, ho⟩ := readOctet_spec hzero (t ++ [0])
    rw [hread] at hrun
    cases o with
    | some a => exact .inl ⟨p, a, t, rfl, (ho a).mp rfl, hrun⟩
    | none =>
      refine .inr ⟨fun p' a t' heq hoctet => ?_, .inr ⟨_, ?_, hrun⟩⟩
      · obtain ⟨rfl, -⟩ := append_dot_inj hp hoctet.chars.2 heq
        exact absurd ((ho a).mpr hoctet) nofun
      · intro heq
        rw [List.append_assoc, List.append_assoc, List.append_cancel_left_eq, List.append_assoc,
          List.append_cancel_left_eq] at heq
        exact absurd (List.cons.inj heq).1 (by decide)
  · refine .inr ⟨fun p a t heq _ => hdot (heq ▸ List.mem_append_right _ List.mem_cons_self), .inl ?_⟩
    have hobject : (46 : UInt8) ∉ s ++ [0] := by simpa using hdot
    rw [← List.append_nil (s ++ [0]), strtoipLoop_skip _ _ _ _ _ hobject]
    rfl

/-- The string begins with `left` numbers that are read, by which `ip` becomes `ip'`,
and a dot behind each. What follows them is `t`. -/
inductive Heads : (left : Nat) → (s : List UInt8) → (ip ip' : Nat) → (t : List UInt8) → Prop where
  | nil {s : List UInt8} {ip : Nat} : Heads 0 s ip ip s
  | cons {left : Nat} {p rest t : List UInt8} {a ip ip' : Nat} (hp : WrappedOctet p a)
      (h : Heads left rest (u32 (u32 (ip * 256) + a)) ip' t) : Heads (left + 1) (p ++ 46 :: rest) ip ip' t

/-- The loop reads the numbers in front of the dots, or it fails to keep to the string. -/
theorem strtoipLoop_heads {s : List UInt8} (hs : (0 : UInt8) ∉ s) (before : List UInt8) (left ip : Nat) :
    (∃ ip' t, Heads left s ip ip' t ∧
      strtoipLoop before [] (s ++ [0]) left ip = .ok (before ++ s ++ [0], some (ip', t ++ [0]))) ∨
    (¬ ∃ ip' t, Heads left s ip ip' t) ∧ (strtoipLoop before [] (s ++ [0]) left ip = .error .read ∨
      ∃ str, str ≠ before ++ s ++ [0] ∧ strtoipLoop before [] (s ++ [0]) left ip = .ok (str, none)) := by
  induction left generalizing s before ip with
  | zero => exact .inl ⟨ip, s, .nil, by simp [strtoipLoop]⟩
  | succ left ih =>
    obtain ⟨p, a, rest, rfl, hp, hrun⟩ | ⟨hnone, hbad⟩ := strtoipLoop_cases hs before left ip
    · have hrest : (0 : UInt8) ∉ rest := fun h => hs (List.mem_append_right _ (List.mem_cons_of_mem _ h))
      have hobject : before ++ p ++ [46] ++ rest ++ [0] = before ++ (p ++ 46 :: rest) ++ [0] := by simp
      rw [hrun, ← hobject]
      obtain ⟨ip', t, hheads, hrun'⟩ | ⟨hnone, hbad⟩ := ih hrest (before ++ p ++ [46]) (u32 (u32 (ip * 256) + a))
      · exact .inl ⟨ip', t, .cons hp hheads, hrun'⟩
      · refine .inr ⟨?_, hbad⟩
        rintro ⟨ip', t, hheads⟩
        generalize hs' : p ++ 46 :: rest = s at hheads
        cases hheads with
        | cons hp' h =>
          obtain ⟨rfl, rfl⟩ := append_dot_inj hp.chars.2 hp'.chars.2 hs'
          obtain rfl := hp.unique hp'
          exact hnone ⟨ip', t, h⟩
    · refine .inr ⟨?_, hbad⟩
      rintro ⟨ip', t, hheads⟩
      cases hheads with
      | cons hp h => exact hnone _ _ _ rfl hp

/-- The first three numbers of an address. -/
theorem heads_three {s t : List UInt8} {ip : Nat} : Heads 3 s 0 ip t ↔
    ∃ p a q b r c, s = dotted p q r t ∧ WrappedOctet p a ∧ WrappedOctet q b ∧ WrappedOctet r c ∧
      ip = (a * 256 + b) * 256 + c := by
  have hip : ∀ {a b c : Nat}, a ≤ 255 → b ≤ 255 → c ≤ 255 →
      u32 (u32 (u32 (u32 (u32 (u32 (0 * 256) + a) * 256) + b) * 256) + c) = (a * 256 + b) * 256 + c := by
    intro a b c ha hb hc
    simp only [u32]
    omega
  constructor
  · rintro (_ | @⟨_, p, _, _, a, _, _, hp, _ | @⟨_, q, _, _, b, _, _, hq, _ | @⟨_, r, _, _, c, _, _, hr, _ | _⟩⟩⟩)
    exact ⟨p, a, q, b, r, c, rfl, hp, hq, hr, hip hp.le hq.le hr.le⟩
  · rintro ⟨p, a, q, b, r, c, rfl, hp, hq, hr, rfl⟩
    rw [← hip hp.le hq.le hr.le]
    exact .cons hp (.cons hq (.cons hr .nil))

/-- The four numbers of an address are read, and nothing is left behind. -/
theorem strtoip_headed {s t : List UInt8} {ip : Nat} (hs : (0 : UInt8) ∉ s) (h : Heads 3 s 0 ip t)
    (hrun : strtoipLoop [] [] (s ++ [0]) 3 0 = .ok (s ++ [0], some (ip, t ++ [0]))) :
    (∀ d, ¬ WrappedOctet t d) ∧ strtoip (s ++ [0]) = .ok (-1, none, s ++ [0]) ∨
      ∃ d, WrappedOctet t d ∧
        strtoip (s ++ [0]) = .ok (if ip * 256 + d = 0 then -1 else 0, some (ip * 256 + d), s ++ [0]) := by
  obtain ⟨p, a, q, b, r, c, rfl, hp, hq, hr, rfl⟩ := heads_three.mp h
  have ht : (0 : UInt8) ∉ t := by
    intro hmem
    refine hs ?_
    simp [dotted, hmem]
  obtain ⟨o, hread, ho⟩ := readOctet_spec ht []
  cases o with
  | none =>
    refine .inl ⟨fun d hd => absurd ((ho d).mpr hd) nofun, ?_⟩
    rw [strtoip, hrun, ok_bind]
    simp only [hread, ok_bind]
    rfl
  | some d =>
    have hd := (ho d).mp rfl
    have hip : u32 (u32 (((a * 256 + b) * 256 + c) * 256) + d) = ((a * 256 + b) * 256 + c) * 256 + d := by
      have := hp.le
      have := hq.le
      have := hr.le
      have := hd.le
      simp only [u32]
      omega
    refine .inr ⟨d, hd, ?_⟩
    rw [strtoip, hrun, ok_bind]
    simp only [hread, ok_bind, hip]
    rfl

theorem dotted_inj {p p' q q' r r' t t' : List UInt8} {a a' b b' c c' : Nat} (hp : WrappedOctet p a)
    (hq : WrappedOctet q b) (hr : WrappedOctet r c) (hp' : WrappedOctet p' a') (hq' : WrappedOctet q' b')
    (hr' : WrappedOctet r' c') (h : dotted p q r t = dotted p' q' r' t') :
    (p = p' ∧ a = a') ∧ (q = q' ∧ b = b') ∧ (r = r' ∧ c = c') ∧ t = t' := by
  obtain ⟨rfl, h₁⟩ := append_dot_inj hp.chars.2 hp'.chars.2 h
  obtain ⟨rfl, h₂⟩ := append_dot_inj hq.chars.2 hq'.chars.2 h₁
  obtain ⟨rfl, rfl⟩ := append_dot_inj hr.chars.2 hr'.chars.2 h₂
  exact ⟨⟨rfl, hp.unique hp'⟩, ⟨rfl, hq.unique hq'⟩, ⟨rfl, hr.unique hr'⟩, rfl⟩

theorem Dotted.octets {p q r t : List UInt8} {a b c ip : Nat} (h : Dotted (dotted p q r t) ip) (hp : WrappedOctet p a)
    (hq : WrappedOctet q b) (hr : WrappedOctet r c) :
    Octet p a ∧ Octet q b ∧ Octet r c ∧ ∃ d, Octet t d ∧ ip = quad a b c d := by
  obtain ⟨p', a', q', b', r', c', t', d, heq, hp', hq', hr', ht', rfl⟩ := h
  obtain ⟨⟨rfl, rfl⟩, ⟨rfl, rfl⟩, ⟨rfl, rfl⟩, rfl⟩ := dotted_inj hp hq hr hp'.wrapped hq'.wrapped hr'.wrapped heq
  exact ⟨hp', hq', hr', d, ht', rfl⟩

/-- The string is left as it is, and `strtoip` succeeds on it when it is an address other
than 0.0.0.0 in dotted form, and only then. -/
def Parsed (s : List UInt8) : Prop :=
  ∃ ret ipadr, strtoip (s ++ [0]) = .ok (ret, ipadr, s ++ [0]) ∧ (ret = 0 ↔ ∃ ip, Dotted s ip ∧ ip ≠ 0) ∧
    ∀ ip, Dotted s ip → ip ≠ 0 → ipadr = some ip

/-- Three numbers with a dot behind each begin the string. If what follows is a fourth
one, then all four are what they are written as, or they are all 0. -/
def Legible (s : List UInt8) : Prop :=
  ∃ p a q b r c t, s = dotted p q r t ∧ WrappedOctet p a ∧ WrappedOctet q b ∧ WrappedOctet r c ∧
    ∀ d, WrappedOctet t d → quad a b c d = 0 ∨ Octet p a ∧ Octet q b ∧ Octet r c ∧ Octet t d

theorem parsed_iff {s : List UInt8} (hs : (0 : UInt8) ∉ s) : Parsed s ↔ Legible s := by
  obtain ⟨ip, t, hheads, hrun⟩ | ⟨hnone, hbad⟩ := strtoipLoop_heads hs [] 3 0
  · obtain ⟨p, a, q, b, r, c, rfl, hp, hq, hr, rfl⟩ := heads_three.mp hheads
    obtain ⟨ht, hret⟩ | ⟨d, ht, hret⟩ := strtoip_headed hs hheads hrun
    · -- the last number is not one
      have hnone : ∀ {ip}, ¬ Dotted (dotted p q r t) ip := by
        intro ip hip
        obtain ⟨-, -, -, d, hd, -⟩ := hip.octets hp hq hr
        exact ht d hd.wrapped
      exact iff_of_true ⟨_, _, hret, ⟨fun h => absurd h (by decide), fun ⟨_, hip, _⟩ => absurd hip hnone⟩,
        fun _ hip => absurd hip hnone⟩ ⟨p, a, q, b, r, c, t, rfl, hp, hq, hr, fun d hd => absurd hd (ht d)⟩
    · have hquad : ∀ {ip}, Dotted (dotted p q r t) ip → ip = quad a b c d := by
        intro ip hip
        obtain ⟨-, -, -, d', hd', rfl⟩ := hip.octets hp hq hr
        rw [ht.unique hd'.wrapped]
      change strtoip _ = .ok (if quad a b c d = 0 then -1 else 0, some (quad a b c d), _) at hret
      by_cases hzero : quad a b c d = 0
      · rw [if_pos hzero] at hret
        refine iff_of_true ⟨_, _, hret, ⟨fun h => absurd h (by decide), fun ⟨ip, hip, hne⟩ => ?_⟩, fun ip hip hne => ?_⟩
          ⟨p, a, q, b, r, c, t, rfl, hp, hq, hr, fun d' hd' => .inl (ht.unique hd' ▸ hzero)⟩
        · exact absurd ((hquad hip).trans hzero) hne
        · exact absurd ((hquad hip).trans hzero) hne
      · rw [if_neg hzero] at hret
        constructor
        · rintro ⟨ret, ipadr, heq, hiff, -⟩
          rw [hret] at heq
          cases heq
          obtain ⟨ip, hip, -⟩ := hiff.mp rfl
          obtain ⟨hp', hq', hr', d', hd', -⟩ := hip.octets hp hq hr
          refine ⟨p, a, q, b, r, c, t, rfl, hp, hq, hr, fun x hx => .inr ⟨hp', hq', hr', ?_⟩⟩
          rw [hx.unique hd'.wrapped]
          exact hd'
        · rintro ⟨p', a', q', b', r', c', t', heq, hp', hq', hr', hall⟩
          obtain ⟨⟨rfl, rfl⟩, ⟨rfl, rfl⟩, ⟨rfl, rfl⟩, rfl⟩ := dotted_inj hp hq hr hp' hq' hr' heq
          obtain ⟨hp₁, hq₁, hr₁, ht₁⟩ := (hall d ht).resolve_left hzero
          have hdotted : Dotted (dotted p q r t) (quad a b c d) := ⟨p, a, q, b, r, c, t, d, rfl, hp₁, hq₁, hr₁, ht₁, rfl⟩
          exact ⟨_, _, hret, ⟨fun _ => ⟨_, hdotted, hzero⟩, fun _ => rfl⟩, fun ip hip _ => by rw [hquad hip]⟩
  · -- the string has been left, or cut
    refine iff_of_false ?_ ?_
    · rintro ⟨ret, ipadr, heq, -⟩
      obtain hrun | ⟨str, hne, hrun⟩ := hbad
      · rw [strtoip, hrun] at heq
        cases heq
      · rw [strtoip, hrun] at heq
        cases heq
        exact hne rfl
    · rintro ⟨p, a, q, b, r, c, t, rfl, hp, hq, hr, -⟩
      exact hnone ⟨_, t, heads_three.mpr ⟨p, a, q, b, r, c, rfl, hp, hq, hr, rfl⟩⟩

theorem octet_digits {n : Nat} (h : n ≤ 255) : Octet (digits n) n :=
  ⟨digits_ne_nil n, fun _ => isDigit_of_mem_digits, value_digits n, h⟩

theorem strtoip_digits {a b c d : Nat} (ha : a ≤ 255) (hb : b ≤ 255) (hc : c ≤ 255) (hd : d ≤ 255)
    (hne : quad a b c d ≠ 0) : strtoip (dotted (digits a) (digits b) (digits c) (digits d) ++ [0]) =
      .ok (0, some (quad a b c d), dotted (digits a) (digits b) (digits c) (digits d) ++ [0]) := by
  have ha := octet_digits ha
  have hb := octet_digits hb
  have hc := octet_digits hc
  have hd := octet_digits hd
  have hs : (0 : UInt8) ∉ dotted (digits a) (digits b) (digits c) (digits d) := by
    simp [dotted, ha.wrapped.chars.1, hb.wrapped.chars.1, hc.wrapped.chars.1, hd.wrapped.chars.1]
  have hdotted : Dotted (dotted (digits a) (digits b) (digits c) (digits d)) (quad a b c d) :=
    ⟨_, _, _, _, _, _, _, _, rfl, ha, hb, hc, hd, rfl⟩
  obtain ⟨ret, ipadr, hrun, hret, hipadr⟩ := (parsed_iff hs).mpr ⟨_, _, _, _, _, _, _, rfl, ha.wrapped, hb.wrapped,
    hc.wrapped, fun x hx => .inr ⟨ha, hb, hc, hx.unique hd.wrapped ▸ hd⟩⟩
  rw [hret.mpr ⟨_, hdotted, hne⟩, hipadr _ hdotted hne] at hrun
  exact hrun

/-- The string of an address is read as the address. -/
theorem strtoip_iptostr {ip : Nat} (hip : ip < 4294967296) (hne : ip ≠ 0) :
    strtoip (iptostr ip) = .ok (0, some ip, iptostr ip) := by
  have hmod : ∀ k, ip >>> k &&& 255 = ip / 2 ^ k % 256 := fun k => by
    rw [Nat.shiftRight_eq_div_pow, show 255 = 2 ^ 8 - 1 from rfl, Nat.and_two_pow_sub_one_eq_mod]
  have hle : ∀ n, n &&& 255 ≤ 255 := fun n => Nat.and_le_right
  have hquad : quad (ip >>> 24 &&& 255) (ip >>> 16 &&& 255) (ip >>> 8 &&& 255) (ip &&& 255) = ip := by
    have hlow := hmod 0
    rw [Nat.shiftRight_zero] at hlow
    simp only [quad, hmod, hlow]
    omega
  have hrun := strtoip_digits (hle (ip >>> 24)) (hle (ip >>> 16)) (hle (ip >>> 8)) (hle ip) (by rwa [hquad])
  rwa [hquad] at hrun

/-- `strtoip` keeps to the string, and takes exactly the addresses in dotted form, on the
legible strings. The strings of addresses are read as them. -/
theorem strtoip_parses_iff (s : List UInt8) (hs : (0 : UInt8) ∉ s) : (Parsed s ↔ Legible s) ∧
    ∀ ip, ip < 4294967296 → ip ≠ 0 → strtoip (iptostr ip) = .ok (0, some ip, iptostr ip) :=
  ⟨parsed_iff hs, fun _ => strtoip_iptostr⟩

/-- The string 10.0.0.7. -/
theorem strtoip_parses_ten : Parsed (dotted (digits 10) (digits 0) (digits 0) (digits 7)) := by
  have h10 : Octet (digits 10) 10 := octet_digits (by decide)
  have h0 : Octet (digits 0) 0 := octet_digits (by decide)
  have h7 : Octet (digits 7) 7 := octet_digits (by decide)
  exact (strtoip_parses_iff (dotted (digits 10) (digits 0) (digits 0) (digits 7)) (by decide)).1.mpr ⟨_, _, _, _, _, _, _,
    rfl, h10.wrapped, h0.wrapped, h0.wrapped, fun d hd => .inr ⟨h10, h0, h0, hd.unique h7.wrapped ▸ h7⟩⟩

/-- An address other than 0.0.0.0 is not found in a string that is none. -/
theorem not_parsed_of_zero {s : List UInt8} {ipadr : Option Nat}
    (hrun : (strtoip (s ++ [0])).toOption = some (0, ipadr, s ++ [0])) (hs : ∀ ip, ¬ Dotted s ip) : ¬ Parsed s := by
  rintro ⟨ret, ipadr', h, hret, -⟩
  rw [h] at hrun
  obtain rfl : ret = 0 := congrArg Prod.fst (Option.some.inj hrun)
  obtain ⟨ip, hip, -⟩ := hret.mp rfl
  exact hs ip hip

/-- The loop reads behind the terminator of 1.2, and leaves 256.1.1.1 cut at its first
dot. The strings 1.1.1.-0 and 4294967297.1.1.1 are taken for addresses. -/
theorem strtoip_misparses : ¬ Parsed [49, 46, 50] ∧ ¬ Parsed (dotted [50, 53, 54] [49] [49] [49]) ∧
    ¬ Parsed (dotted [49] [49] [49] [45, 48]) ∧
    ¬ Parsed (dotted [52, 50, 57, 52, 57, 54, 55, 50, 57, 55] [49] [49] [49]) := by
  have hone : WrappedOctet [49] 1 := (@octet_digits 1 (by decide)).wrapped
  refine ⟨?_, ?_, @not_parsed_of_zero _ (some 0x01010100) (by decide +kernel) fun ip h => ?_,
    @not_parsed_of_zero _ (some 0x01010101) (by decide +kernel) fun ip h => ?_⟩
  · rintro ⟨ret, ipadr, h, -⟩
    cases (show strtoip [49, 46, 50, 0] = .error .read from rfl).symm.trans h
  · rintro ⟨ret, ipadr, h, -⟩
    have hcut : (strtoip (dotted [50, 53, 54] [49] [49] [49] ++ [0])).toOption =
        some (-1, none, [50, 53, 54, 0, 49, 46, 49, 46, 49, 0]) := by decide +kernel
    rw [h] at hcut
    have hobject : dotted [50, 53, 54] [49] [49] [49] ++ [0] = [50, 53, 54, 0, 49, 46, 49, 46, 49, 0] :=
      congrArg (·.2.2) (Option.some.inj hcut)
    exact absurd hobject (by decide)
  · obtain ⟨-, -, -, d, hd, -⟩ := h.octets hone hone hone
    exact absurd (hd.digits 45 List.mem_cons_self) (by decide)
  · have hlong : WrappedOctet [52, 50, 57, 52, 57, 54, 55, 50, 57, 55] 1 :=
      ⟨⟨_, by decide, by simp [IsDigit], .inl ⟨rfl, by decide +kernel⟩⟩, by decide⟩
    exact absurd (h.octets hlong hone hone).1.value_eq (by decide)

end ZCloud
