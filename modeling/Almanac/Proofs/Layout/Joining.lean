import Almanac.Proofs.Layout.Faults
/-!
# Formats joined by two bars

A format is taken apart from the left, two bars at a time.  So a format that does not end with a bar
keeps its pieces when two bars and another format follow (`pieces_join`): were its last character a
bar, that one would be paired first and the joint would come one character late.

Compiling counts bytes as it goes along, and only faults can tell from where (`compilePieces_shift`).
The compiler of the whole is therefore the compiler of the one format and then that of the other,
with the faults of each put in their place (`compile_join`), and the alternatives of the whole are
those of the one and then those of the other.
-/

namespace Almanac.Layout

variable {spec s₁ s₂ : String} {cs front back : List Char} {fault : Fault} {l : Layout}

/-! ## Pieces -/

theorem pieces_cons {c : Char} (h : ∀ rest, c = '|' → cs = '|' :: rest → False) :
    pieces (c :: cs) = (c :: (pieces cs).1, (pieces cs).2) :=
  pieces.eq_3 c cs h

theorem pieces_join (h : front.getLast? ≠ some '|') :
    pieces (front ++ '|' :: '|' :: back) =
      ((pieces front).1, (pieces front).2 ++ (pieces back).1 :: (pieces back).2) := by
  induction front using pieces.induct with
  | case1 => rfl
  | case2 cs ih =>
      have hcs : cs.getLast? ≠ some '|' := by
        cases cs with
        | nil => exact absurd rfl h
        | cons c cs => simpa only [List.getLast?_cons_cons] using h
      rw [List.cons_append, List.cons_append, pieces, ih hcs, pieces]
      rfl
  | case3 c cs hbars ih =>
      cases cs with
      | nil =>
          have hc : ∀ rest, c = '|' → '|' :: '|' :: back = '|' :: rest → False := by
            rintro rest rfl -
            exact h rfl
          show pieces (c :: '|' :: '|' :: back) = _
          rw [pieces_cons hc, pieces_cons hbars, pieces]
          rfl
      | cons d cs =>
          have hcs : (d :: cs).getLast? ≠ some '|' := by
            simpa only [List.getLast?_cons_cons] using h
          have hjoint : ∀ rest, c = '|' → d :: (cs ++ '|' :: '|' :: back) = '|' :: rest → False := by
            intro rest hbar hrest
            exact hbars cs hbar (by rw [(List.cons.inj hrest).1])
          show pieces (c :: d :: (cs ++ '|' :: '|' :: back)) = _
          rw [pieces_cons hjoint, ← List.cons_append, ih hcs, pieces_cons hbars]

/-- The bytes of the pieces and of the bars between them. -/
theorem byteLength_pieces (cs : List Char) :
    Text.byteLength (pieces cs).1 + Text.byteLength (barred (pieces cs).2) = Text.byteLength cs := by
  rw [← Text.byteLength_append, pieces_append]

/-! ## Faults of a part -/

theorem placeFault_placeFault (spec spec' : String) (start start' : Nat) (fault : Fault) :
    placeFault spec start (placeFault spec' start' fault)
      = placeFault spec (start + start') fault := by
  cases fault with
  | badPattern pattern span message =>
      simp only [placeFault, Span.shifted, Nat.add_assoc, Nat.add_comm start]
  | _ => rfl

/-- Where a piece begins, and in which format, shows in its faults only. -/
theorem compilePiece_shift (spec spec' : String) (start offset : Nat) (piece : List Char) :
    compilePiece spec (start + offset) piece
      = (compilePiece spec' offset piece).mapError (placeFault spec start) := by
  simp only [compilePiece]
  split
  · simp only [Except.mapError, placeFault, Span.point, Span.shifted, Nat.add_assoc,
      Nat.add_comm start]
  · split
    · rfl
    · rw [mapError_mapError]
      congr 1
      funext fault
      rw [Function.comp_apply, placeFault_placeFault, Nat.add_assoc]

theorem compilePieces_shift (spec spec' : String) (start offset : Nat)
    (pieces : List (List Char)) :
    compilePieces spec (start + offset) pieces
      = (compilePieces spec' offset pieces).mapError (placeFault spec start) := by
  induction pieces generalizing offset with
  | nil => rfl
  | cons piece pieces ih =>
      rw [compilePieces, compilePieces, mapError_bind, compilePiece_shift spec spec',
        Nat.add_assoc start, Nat.add_assoc start, ih]
      congr 1
      funext a
      rw [mapError_bind]
      rfl

/-! ## Compiling the whole -/

theorem compilePieces_append (spec : String) (offset : Nat) (front back : List (List Char)) :
    compilePieces spec offset (front ++ back) = (do
      let as ← compilePieces spec offset front
      let bs ← compilePieces spec (offset + Text.byteLength (barred front)) back
      return as ++ bs) := by
  induction front generalizing offset with
  | nil =>
      show compilePieces spec offset back = (compilePieces spec offset back >>= pure)
      rw [bind_pure]
  | cons piece front ih =>
      have hbytes : offset + Text.byteLength (barred (piece :: front))
          = offset + Text.byteLength piece + 2 + Text.byteLength (barred front) := by
        show offset + (1 + (1 + Text.byteLength (piece ++ barred front))) = _
        rw [Text.byteLength_append]
        omega
      simp only [List.cons_append, compilePieces, ih, hbytes, bind_assoc, pure_bind]

/-- A format within another one is compiled there, but for what it was written as. -/
theorem compile_shift (spec whole : String) (start : Nat) :
    (compile spec).mapError (placeFault whole start) = (do
      let first ← compilePiece whole start (pieces spec.toList).1
      let others ← compilePieces whole (start + (Text.byteLength (pieces spec.toList).1 + 2))
        (pieces spec.toList).2
      return ⟨spec, first, others⟩) := by
  show (compilePiece spec 0 _ >>= _).mapError (placeFault whole start) = _
  rw [mapError_bind, ← compilePiece_shift, Nat.add_zero, compilePieces_shift whole spec]
  congr 1
  funext first
  rw [mapError_bind]
  rfl

/-- The whole is compiled as the one format and then as the other, each with its faults put in their
place. -/
theorem compile_join (h : s₁.toList.getLast? ≠ some '|') :
    compile (s₁ ++ "||" ++ s₂) = (do
      let l₁ ← (compile s₁).mapError (placeFault (s₁ ++ "||" ++ s₂) 0)
      let l₂ ← (compile s₂).mapError
        (placeFault (s₁ ++ "||" ++ s₂) (Text.byteLength s₁.toList + 2))
      return ⟨s₁ ++ "||" ++ s₂, l₁.first, l₁.others ++ l₂.alternatives⟩) := by
  have hwhole : (s₁ ++ "||" ++ s₂).toList = s₁.toList ++ '|' :: '|' :: s₂.toList := by
    rw [String.toList_append, String.toList_append, List.append_assoc]
    rfl
  have hbytes := byteLength_pieces s₁.toList
  have hstart : Text.byteLength (pieces s₁.toList).1 + 2
      + Text.byteLength (barred (pieces s₁.toList).2) = Text.byteLength s₁.toList + 2 := by
    omega
  rw [compile_shift, compile_shift, Nat.zero_add]
  show (compilePiece _ 0 (pieces (s₁ ++ "||" ++ s₂).toList).1 >>= _) = _
  simp only [hwhole, pieces_join h, compilePieces_append, hstart, compilePieces, bind_assoc,
    pure_bind, alternatives, Nat.add_assoc]

/-! ## Reading by more alternatives -/

theorem readFirst_append (text : List Char) (fault : Fault) (as bs : List Alternative) :
    readFirst text fault (as ++ bs) =
      match readFirst text fault as with
      | .ok r => .ok r
      | .error _ => readFirst text fault bs := by
  induction as with
  | nil => rfl
  | cons a as ih =>
      rw [List.cons_append, readFirst, readFirst]
      cases a.read text with
      | ok r => rfl
      | error _ => exact ih

/-- The alternatives of a layout read what it reads, and fail with the fault that they are given. -/
theorem readFirst_alternatives (text : List Char) (fault : Fault) (l : Layout) :
    readFirst text fault l.alternatives = (l.read text).mapError fun _ => fault := by
  have hothers : ∀ (first : Fault) (as : List Alternative),
      readFirst text fault as = (readFirst text first as).mapError fun _ => fault := by
    intro first as
    induction as with
    | nil => rfl
    | cons a as ih =>
        rw [readFirst, readFirst]
        cases a.read text with
        | ok r => rfl
        | error _ => exact ih
  rw [alternatives, readFirst, read]
  cases l.first.read text with
  | ok r => rfl
  | error first => exact hothers first l.others

/-- The whole reads as the one format, and as the other what that one does not read; what neither
reads fails with the fault of the first. -/
theorem read_join (spec : String) (l₁ l₂ : Layout) (text : List Char) :
    read ⟨spec, l₁.first, l₁.others ++ l₂.alternatives⟩ text =
      match l₁.read text with
      | .ok r => .ok r
      | .error fault => (l₂.read text).mapError fun _ => fault := by
  simp only [read]
  cases l₁.first.read text with
  | ok r => rfl
  | error fault =>
      simp only [readFirst_append, readFirst_alternatives]
      cases hothers : readFirst text fault l₁.others with
      | ok r => rfl
      | error fault' =>
          rw [readFirst_eq_error hothers]
          rfl

/-! ## The statement -/

theorem badPattern_of_compile (h : compile spec = .error fault) :
    ∃ span message, fault = .badPattern spec span message := by
  have hfault := miswritten_of_compile h
  cases hfault with
  | pattern _ => exact ⟨_, _, by rw [String.ofList_toList]⟩

theorem compile_join_eq_ok_iff (h : s₁.toList.getLast? ≠ some '|') :
    compile (s₁ ++ "||" ++ s₂) = .ok l ↔
      ∃ l₁ l₂, compile s₁ = .ok l₁ ∧ compile s₂ = .ok l₂ ∧
        ⟨s₁ ++ "||" ++ s₂, l₁.first, l₁.others ++ l₂.alternatives⟩ = l := by
  simp only [compile_join h, bind_eq_ok, mapError_eq_ok, pure_eq_ok, exists_and_left]

/-- Two formats with two bars between them, of which the first does not end with a bar, are one
format exactly if both are formats.  It reads what the first reads, as the first does, and what only
the second reads, as the second does; what neither reads fails with the fault of the first.  It
writes as the first does.  If the first does not compile, the whole fails at the same place and with
the same message; if only the second does not, at the place as many bytes later as there are in
front of it, and with the same message. -/
theorem alternatives_compose (s₁ s₂ : String) (h : s₁.toList.getLast? ≠ some '|') :
    ((∃ l, compile (s₁ ++ "||" ++ s₂) = .ok l) ↔
      (∃ l₁, compile s₁ = .ok l₁) ∧ ∃ l₂, compile s₂ = .ok l₂) ∧
    (∀ l l₁ l₂, compile (s₁ ++ "||" ++ s₂) = .ok l → compile s₁ = .ok l₁ → compile s₂ = .ok l₂ →
      (∀ text, l.read text =
        match l₁.read text, l₂.read text with
        | .ok r, _ => .ok r
        | .error _, .ok r => .ok r
        | .error fault, .error _ => .error fault) ∧
      ∀ i, l.write i = l₁.write i) ∧
    (∀ fault, compile s₁ = .error fault → ∃ span message, fault = .badPattern s₁ span message ∧
      compile (s₁ ++ "||" ++ s₂) = .error (.badPattern (s₁ ++ "||" ++ s₂) span message)) ∧
    ∀ l₁ fault, compile s₁ = .ok l₁ → compile s₂ = .error fault →
      ∃ span message, fault = .badPattern s₂ span message ∧
        compile (s₁ ++ "||" ++ s₂) = .error (.badPattern (s₁ ++ "||" ++ s₂)
          (span.shifted (Text.byteLength s₁.toList + 2)) message) := by
  refine ⟨?_, ?_, ?_, ?_⟩
  · simp only [compile_join_eq_ok_iff h]
    constructor
    · rintro ⟨l, l₁, l₂, h₁, h₂, -⟩
      exact ⟨⟨l₁, h₁⟩, l₂, h₂⟩
    · rintro ⟨⟨l₁, h₁⟩, l₂, h₂⟩
      exact ⟨_, l₁, l₂, h₁, h₂, rfl⟩
  · intro l l₁ l₂ hl h₁ h₂
    obtain ⟨l₁', l₂', h₁', h₂', rfl⟩ := (compile_join_eq_ok_iff h).mp hl
    obtain rfl := Except.ok.inj (h₁.symm.trans h₁')
    obtain rfl := Except.ok.inj (h₂.symm.trans h₂')
    refine ⟨fun text => ?_, fun i => rfl⟩
    rw [read_join]
    cases l₁.read text with
    | ok r => rfl
    | error fault => cases l₂.read text <;> rfl
  · intro fault h₁
    obtain ⟨span, message, rfl⟩ := badPattern_of_compile h₁
    refine ⟨span, message, rfl, ?_⟩
    rw [compile_join h, h₁]
    rfl
  · intro l₁ fault h₁ h₂
    obtain ⟨span, message, rfl⟩ := badPattern_of_compile h₂
    refine ⟨span, message, rfl, ?_⟩
    rw [compile_join h, h₁, h₂]
    rfl

/-- A year with a mark of two bytes, and after it two formats: one that begins with a bar of its own
and has two alternatives, and one with a letter that is no field. -/
theorem alternatives_compose_bars :
    "yyyy'é'".toList.getLast? ≠ some '|' ∧
      (∃ l, compile ("yyyy'é'" ++ "||" ++ "|yyyy|| date_optional_time ") = .ok l ∧
        l.read "2021é".toList = .ok ⟨⟨1609459200000⟩, .year, 0⟩ ∧
        l.read "2021-02-01".toList = .ok ⟨⟨1612137600000⟩, .day, 0⟩ ∧
        (∃ fault, l.read "2021-02".toList = .error fault) ∧
        l.write ⟨1612137600000⟩ = .ok "2021é".toList) ∧
      compile ("yyyy'é'" ++ "||" ++ "|MM qq") = .error
        (.badPattern ("yyyy'é'" ++ "||" ++ "|MM qq") ⟨14, 16⟩ "unsupported pattern letter 'q'") := by
  have hbar : "yyyy'é'".toList.getLast? ≠ some '|' := by decide
  have h₁ : compile "yyyy'é'" = .ok ⟨"yyyy'é'", .pattern ⟨"yyyy'é'".toList,
      [.field .year, .literal 'é'], .year⟩, []⟩ := toOption_eq_some.mp (by decide +kernel)
  have h₂ : compile "|yyyy|| date_optional_time " = .ok ⟨"|yyyy|| date_optional_time ",
      .pattern ⟨"|yyyy".toList, [.literal '|', .field .year], .year⟩, [.dateOptionalTime]⟩ :=
    toOption_eq_some.mp (by decide +kernel)
  refine ⟨hbar, ?_, ?_⟩
  · obtain ⟨hiff, huse, -⟩ := alternatives_compose _ "|yyyy|| date_optional_time " hbar
    obtain ⟨l, hl⟩ := hiff.mpr ⟨⟨_, h₁⟩, _, h₂⟩
    obtain ⟨hread, hwrite⟩ := huse l _ _ hl h₁ h₂
    refine ⟨l, hl, ?_, ?_, ?_, ?_⟩
    · rw [hread]
      exact toOption_eq_some.mp (by decide +kernel)
    · rw [hread]
      exact toOption_eq_some.mp (by decide +kernel)
    · rw [hread]
      exact toOption_eq_none.mp (by decide +kernel)
    · rw [hwrite]
      exact toOption_eq_some.mp (by decide +kernel)
  · have hfault : compile "|MM qq"
        = .error (.badPattern "|MM qq" ⟨4, 6⟩ "unsupported pattern letter 'q'") := rfl
    obtain ⟨span, message, heq, hjoined⟩ :=
      (alternatives_compose _ "|MM qq" hbar).2.2.2 _ _ h₁ hfault
    cases heq
    exact hjoined

end Almanac.Layout
