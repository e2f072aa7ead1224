import AgentGrid.Launch.Args

/-!
# The tokens of a command

What the two passes agree on is stated without either of them: a token is a text that is read from
the bare mode back to it without a bare blank, and a command is laid out as tokens between blanks.
Both passes find exactly the layout, rendered arguments are tokens for their values, and so the
tokenizer and the renderer are inverse.
-/

namespace AgentGrid.Launch

open AgentGrid.Lib List

variable {command : Bytes} {m m' : Mode} {cur v raw rest : Bytes} {c b : UInt8}

/-! ## Tokens -/

inductive Action where
  | blank | turn (m : Mode) | keep | escape

def action : Mode → UInt8 → Action
  | .single, c => if c = singleQuote then .turn .bare else .keep
  | .double, c => if c = doubleQuote then .turn .bare else if c = backslash then .escape else .keep
  | .bare, c =>
    if isBlank c then .blank
    else if c = singleQuote then .turn .single
    else if c = doubleQuote then .turn .double
    else if c = backslash then .escape
    else .keep

/-- Read a text that has no bare blank: the mode and the value after it. -/
def eat : Bytes → Mode → Bytes → Option (Mode × Bytes)
  | [], m, cur => some (m, cur)
  | c :: rest, m, cur =>
    match action m c with
    | .blank => none
    | .turn m => eat rest m cur
    | .keep => eat rest m (cur ++ [c])
    | .escape =>
      match rest with
      | [] => none
      | b :: rest => eat rest m (cur ++ [b])

def Piece (token : ArgToken) : Prop :=
  token.raw ≠ [] ∧ eat token.raw .bare [] = some (.bare, token.value)

/-- The command is these tokens, in order, between and around them only blanks. -/
inductive Layout : Bytes → List ArgToken → Prop where
  | empty : Layout [] []
  | blank {c : UInt8} {rest : Bytes} {tokens : List ArgToken} (blank : isBlank c = true)
      (layout : Layout rest tokens) : Layout (c :: rest) tokens
  | last {token : ArgToken} (piece : Piece token) : Layout token.raw [token]
  | token {token : ArgToken} {c : UInt8} {rest : Bytes} {tokens : List ArgToken}
      (piece : Piece token) (blank : isBlank c = true) (layout : Layout rest tokens) :
      Layout (token.raw ++ c :: rest) (token :: tokens)

theorem action_bare_blank : action .bare c = .blank ↔ isBlank c = true := by
  simp only [action]
  split
  · rename_i blank
    exact ⟨fun _ => blank, fun _ => rfl⟩
  rename_i nonblank
  refine ⟨fun same => ?_, fun blank => absurd blank nonblank⟩
  repeat' split at same
  all_goals cases same

theorem eat_cons : eat (c :: rest) m cur = match action m c with
    | .blank => none
    | .turn m => eat rest m cur
    | .keep => eat rest m (cur ++ [c])
    | .escape =>
      match rest with
      | [] => none
      | b :: rest => eat rest m (cur ++ [b]) := by
  rw [eat.eq_def]
  dsimp only
  cases action m c with
  | escape => cases rest <;> rfl
  | blank | turn | keep => rfl

variable {token : ArgToken}

theorem Piece.first (piece : Piece token) : ∃ c text, token.raw = c :: text ∧ isBlank c = false := by
  obtain ⟨nonempty, read⟩ := piece
  cases text : token.raw with
  | nil => exact absurd text nonempty
  | cons c rest =>
    refine ⟨c, rest, rfl, ?_⟩
    rw [text, eat_cons] at read
    cases blank : isBlank c with
    | false => rfl
    | true =>
      rw [action_bare_blank.mpr blank] at read
      cases read

/-! ## The first pass -/

variable (args : List Bytes) (chosen : Nat → Bool) (i : Nat) (s : Raw)

theorem lexCookedLoop_cons (inToken : Bool) (inside : inToken = true ∨ m = .bare ∧ isBlank c = false) :
    lexCookedLoop command (c :: rest) ⟨args, cur, inToken, m⟩ = match action m c with
      | .blank => lexCookedLoop command rest ⟨args ++ [cur], [], false, .bare⟩
      | .turn m' => lexCookedLoop command rest ⟨args, cur, true, m'⟩
      | .keep => lexCookedLoop command rest ⟨args, cur ++ [c], true, m⟩
      | .escape =>
        match rest with
        | [] => .error (.unterminatedEscape command)
        | b :: rest => lexCookedLoop command rest ⟨args, cur ++ [b], true, m⟩ := by
  rw [lexCookedLoop.eq_def]
  revert inside
  fun_cases action m c <;> intro inside
  all_goals cases rest <;> simp_all

theorem lexCookedLoop_blank (blank : isBlank c = true) : lexCookedLoop command (c :: rest) ⟨args, [], false, .bare⟩ =
      lexCookedLoop command rest ⟨args, [], false, .bare⟩ := by
  rw [lexCookedLoop.eq_def]
  simp [blank]

theorem lexCookedLoop_eat (read : eat raw m cur = some (m', v)) :
    lexCookedLoop command (raw ++ rest) ⟨args, cur, true, m⟩ = lexCookedLoop command rest ⟨args, v, true, m'⟩ := by
  induction raw, m, cur using eat.induct with
  | case1 =>
    cases read
    rfl
  | case2 c left m cur blank =>
    rw [eat_cons, blank] at read
    cases read
  | case3 c left m cur next turned ih =>
    rw [eat_cons, turned] at read
    rw [cons_append, lexCookedLoop_cons args true (.inl rfl), turned]
    exact ih read
  | case4 c left m cur kept ih =>
    rw [eat_cons, kept] at read
    rw [cons_append, lexCookedLoop_cons args true (.inl rfl), kept]
    exact ih read
  | case5 c m cur escaped =>
    rw [eat_cons, escaped] at read
    cases read
  | case6 c m cur escaped b left ih =>
    rw [eat_cons, escaped] at read
    rw [cons_append, lexCookedLoop_cons args true (.inl rfl), escaped]
    exact ih read

theorem lexCookedLoop_piece (piece : Piece token) (args : List Bytes) :
    lexCookedLoop command (token.raw ++ rest) ⟨args, [], false, .bare⟩ =
      lexCookedLoop command rest ⟨args, token.value, true, .bare⟩ := by
  obtain ⟨c, text, first, nonblank⟩ := piece.first
  rw [← lexCookedLoop_eat args piece.2, first, cons_append,
    lexCookedLoop_cons args false (.inr ⟨rfl, nonblank⟩), lexCookedLoop_cons args true (.inl rfl)]

variable {tokens : List ArgToken}

theorem lexCookedFrom_layout (layout : Layout raw tokens) (args : List Bytes) :
    lexCookedFrom command raw ⟨args, [], false, .bare⟩ = .ok (args ++ tokens.map ArgToken.value) := by
  unfold lexCookedFrom
  induction layout generalizing args with
  | empty => simp [lexCookedLoop, Cooked.finish, Except.bind]
  | blank blank layout ih => rw [lexCookedLoop_blank args blank, ih]
  | @last token piece =>
    have read : lexCookedLoop command (token.raw ++ []) ⟨args, [], false, .bare⟩ =
        lexCookedLoop command [] ⟨args, token.value, true, .bare⟩ :=
      lexCookedLoop_piece piece args
    rw [append_nil] at read
    rw [read]
    rfl
  | @token token c rest tokens piece blank layout ih =>
    rw [lexCookedLoop_piece piece, lexCookedLoop_cons args true (.inl rfl), action_bare_blank.mpr blank]
    simp [ih]

/-! ## The second pass -/

theorem lexRawLoop_cons (inside : s.inToken = true) (nonblank : action s.mode c ≠ .blank) :
    lexRawLoop command args (c :: rest) i s = match action s.mode c with
      | .blank => .ok s
      | .turn m => lexRawLoop command args rest (i + 1) { s with mode := m }
      | .keep => lexRawLoop command args rest (i + 1) s
      | .escape =>
        match rest with
        | [] => lexRawLoop command args [] (i + 1) s
        | _ :: rest => lexRawLoop command args rest (i + 2) s := by
  obtain ⟨tokens, inToken, m, start, idx⟩ := s
  cases inside
  rw [lexRawLoop.eq_def]
  revert nonblank
  fun_cases action m c <;> intro nonblank
  all_goals cases rest <;> simp_all [Raw.enter]

theorem lexRawLoop_enter (bare : s.mode = .bare) (nonblank : isBlank c = false) :
    lexRawLoop command args (c :: rest) i s = lexRawLoop command args (c :: rest) i (s.enter i) := by
  have again : (s.enter i).enter i = s.enter i := by
    unfold Raw.enter
    split <;> simp
  have still : (s.enter i).mode = .bare := by
    unfold Raw.enter
    split <;> exact bare
  rw [lexRawLoop.eq_def, lexRawLoop.eq_def _ _ (c :: rest) i (s.enter i)]
  simp only [bare, still, nonblank, Bool.false_eq_true, if_false, again]

theorem lexRawLoop_eat (inside : s.inToken = true) (read : eat raw s.mode cur = some (m', v)) :
    lexRawLoop command args (raw ++ rest) i s =
      lexRawLoop command args rest (i + raw.length) { s with mode := m' } := by
  generalize mode : s.mode = m at read
  induction raw, m, cur using eat.induct generalizing i s with
  | case1 =>
    cases read
    simp [← mode]
  | case2 c left m cur blank =>
    rw [eat_cons, blank] at read
    cases read
  | case3 c left m cur next turned ih =>
    rw [eat_cons, turned] at read
    rw [cons_append, lexRawLoop_cons args i s inside (by simp [mode, turned]), mode, turned]
    dsimp only
    rw [ih (i + 1) { s with mode := next } inside rfl read, length_cons]
    congr 1
    omega
  | case4 c left m cur kept ih =>
    rw [eat_cons, kept] at read
    rw [cons_append, lexRawLoop_cons args i s inside (by simp [mode, kept]), mode, kept]
    dsimp only
    rw [ih (i + 1) s inside mode read, length_cons]
    congr 1
    omega
  | case5 c m cur escaped =>
    rw [eat_cons, escaped] at read
    cases read
  | case6 c m cur escaped b left ih =>
    rw [eat_cons, escaped] at read
    rw [cons_append, lexRawLoop_cons args i s inside (by simp [mode, escaped]), mode, escaped]
    dsimp only [cons_append]
    rw [ih (i + 2) s inside mode read, length_cons, length_cons]
    congr 1
    omega

theorem lexRawLoop_blank (tokens : List ArgToken) (start : Int) (idx : Nat) (blank : isBlank c = true) :
    lexRawLoop command args (c :: rest) i ⟨tokens, false, .bare, start, idx⟩ =
      lexRawLoop command args rest (i + 1) ⟨tokens, false, .bare, start, idx⟩ := by
  rw [lexRawLoop.eq_def]
  simp [blank]

theorem slice_span (front text back : Bytes) :
    slice (front ++ text ++ back) front.length (front.length + text.length) = .ok text := by
  rw [slice, if_pos ⟨by omega, by omega, by simp⟩]
  simp [take_append]

theorem lexRawLoop_piece (piece : Piece token) (args : List Bytes) (i : Nat) (tokens : List ArgToken) (idx : Nat) :
    lexRawLoop command args (token.raw ++ rest) i ⟨tokens, false, .bare, -1, idx⟩ =
      lexRawLoop command args rest (i + token.raw.length) ⟨tokens, true, .bare, i, idx⟩ := by
  obtain ⟨c, text, first, nonblank⟩ := piece.first
  have read : lexRawLoop command args (token.raw ++ rest) i ⟨tokens, true, .bare, i, idx⟩ =
      lexRawLoop command args rest (i + token.raw.length) ⟨tokens, true, .bare, i, idx⟩ :=
    lexRawLoop_eat args i ⟨tokens, true, .bare, i, idx⟩ rfl piece.2
  rw [← read, first, cons_append, lexRawLoop_enter args i ⟨tokens, false, .bare, -1, idx⟩ rfl nonblank]
  rfl

theorem token_span {front : Bytes} (back : Bytes) (done later : List ArgToken)
    (split : command = front ++ token.raw ++ back) (mode : Mode) :
    (⟨done, true, mode, front.length, done.length⟩ : Raw).token command
        ((done ++ token :: later).map ArgToken.value) (front.length + token.raw.length) = .ok token := by
  have span : slice command front.length (front.length + token.raw.length) = .ok token.raw := by
    rw [split]
    exact slice_span front token.raw back
  have value : Go.index ((done ++ token :: later).map ArgToken.value) done.length = .ok token.value := by
    rw [Go.index_eq_ok]
    simp
  rw [Raw.token, span, Go.ok_bind, value, Go.ok_bind]
  rfl

variable {left : Bytes}

theorem lexRawFrom_layout (layout : Layout left tokens) (front : Bytes) (done : List ArgToken)
    (split : command = front ++ left) : lexRawFrom command ((done ++ tokens).map ArgToken.value) left front.length
      ⟨done, false, .bare, -1, done.length⟩ = .ok (done ++ tokens) := by
  unfold lexRawFrom
  induction layout generalizing front done with
  | empty => simp [lexRawLoop, Raw.finish, Except.bind]
  | @blank c rest tokens blank layout ih =>
    have next := ih (front ++ [c]) done (by simp [split])
    rw [lexRawLoop_blank _ _ _ _ _ blank]
    simpa using next
  | @last token piece =>
    have read : lexRawLoop command ((done ++ [token]).map ArgToken.value) (token.raw ++ [])
        front.length ⟨done, false, .bare, -1, done.length⟩ = lexRawLoop command _ []
          (front.length + token.raw.length) ⟨done, true, .bare, front.length, done.length⟩ :=
      lexRawLoop_piece piece _ _ _ _
    rw [append_nil] at read
    have cut := token_span [] done [] (by simpa using split) .bare
    have length : command.length = front.length + token.raw.length := by simp [split]
    rw [read, lexRawLoop]
    simp only [Except.bind, Raw.finish, if_true, length]
    rw [cut]
  | @token token c rest tokens piece blank layout ih =>
    have cut := token_span (c :: rest) done tokens (by simpa using split) .bare
    have next := ih (front ++ token.raw ++ [c]) (done ++ [token]) (by simp [split])
    rw [lexRawLoop_piece piece, lexRawLoop.eq_def]
    simp only [blank, if_true]
    rw [cut]
    simpa [Except.bind, Nat.add_assoc] using next

/-! ## Every command that is accepted has a layout -/

def Tail (left : Bytes) (tokens : List ArgToken) : Prop :=
  left = [] ∧ tokens = [] ∨ ∃ c rest, left = c :: rest ∧ isBlank c = true ∧ Layout rest tokens

/-- From inside of a token, what is left is read to the end of it and then laid out. -/
def Reads (left : Bytes) (m : Mode) (cur : Bytes) : Prop :=
  ∃ text value back tokens, left = text ++ back ∧ eat text m cur = some (.bare, value) ∧ Tail back tokens

theorem Tail.layout (token : ArgToken) (piece : Piece token) (tail : Tail rest tokens) :
    Layout (token.raw ++ rest) (token :: tokens) := by
  rcases tail with ⟨rfl, rfl⟩ | ⟨c, left, rfl, blank, layout⟩
  · rw [append_nil]
    exact .last piece
  · exact .token piece blank layout

theorem Reads.step {cur' : Bytes} (reads : Reads rest m' cur') (skipped : Bytes)
    (same : ∀ text, eat (skipped ++ text) m cur = eat text m' cur') : Reads (skipped ++ rest) m cur := by
  obtain ⟨text, value, back, tokens, rfl, read, tail⟩ := reads
  exact ⟨skipped ++ text, value, back, tokens, (append_assoc _ _ _).symm, (same text).trans read, tail⟩

theorem Reads.layout (reads : Reads (c :: rest) .bare []) (nonblank : isBlank c = false) :
    ∃ tokens, Layout (c :: rest) tokens := by
  obtain ⟨text, value, back, tokens, split, read, tail⟩ := reads
  have nonempty : text ≠ [] := by
    rintro rfl
    rw [nil_append] at split
    rcases tail with ⟨rfl, -⟩ | ⟨d, left, rfl, blank, -⟩
    · cases split
    cases split
    cases blank.symm.trans nonblank
  rw [split]
  exact ⟨_, Tail.layout ⟨text, value⟩ ⟨nonempty, read⟩ tail⟩

theorem blank_of_action (blank : action m c = .blank) : m = .bare ∧ isBlank c = true := by
  cases m with
  | bare => exact ⟨rfl, action_bare_blank.mp blank⟩
  | single =>
    dsimp only [action] at blank
    split at blank <;> cases blank
  | double =>
    dsimp only [action] at blank
    repeat' split at blank
    all_goals cases blank

variable {args : List Bytes}

theorem reads_of_cooked {out : List Bytes} (shorter : ∀ rest : Bytes, rest.length < left.length →
      (∀ args out, lexCookedFrom command rest ⟨args, [], false, .bare⟩ = .ok out → ∃ tokens, Layout rest tokens) ∧
      ∀ args m cur out, lexCookedFrom command rest ⟨args, cur, true, m⟩ = .ok out →
        Reads rest m cur) (cooked : lexCookedFrom command left ⟨args, cur, true, m⟩ = .ok out) :
    Reads left m cur := by
  cases left with
  | nil =>
    cases m with
    | bare => exact ⟨[], cur, [], [], rfl, rfl, .inl ⟨rfl, rfl⟩⟩
    | single | double => cases cooked
  | cons c rest =>
    unfold lexCookedFrom at cooked
    rw [lexCookedLoop_cons args true (.inl rfl)] at cooked
    cases does : action m c with
    | blank =>
      obtain ⟨rfl, blank⟩ := blank_of_action does
      rw [does] at cooked
      obtain ⟨tokens, layout⟩ := (shorter rest (by simp)).1 _ _ cooked
      exact ⟨[], cur, c :: rest, tokens, rfl, rfl, .inr ⟨c, rest, rfl, blank, layout⟩⟩
    | turn | keep =>
      rw [does] at cooked
      refine ((shorter rest (by simp)).2 _ _ _ _ cooked).step [c] fun text => ?_
      rw [singleton_append, eat_cons, does]
    | escape =>
      rw [does] at cooked
      cases rest with
      | nil => cases cooked
      | cons b rest =>
        have less : rest.length < (c :: b :: rest).length := by
          simp only [length_cons]
          omega
        refine ((shorter rest less).2 _ _ _ _ cooked).step [c, b] fun text => ?_
        rw [cons_append, eat_cons, does]
        rfl

theorem layout_of_shorter (n : Nat) : ∀ left : Bytes, left.length < n →
    (∀ args out, lexCookedFrom command left ⟨args, [], false, .bare⟩ = .ok out → ∃ tokens, Layout left tokens) ∧
    ∀ args m cur out, lexCookedFrom command left ⟨args, cur, true, m⟩ = .ok out → Reads left m cur := by
  induction n with
  | zero => nofun
  | succ n ih =>
    intro left bound
    have inside : ∀ args m cur out, lexCookedFrom command left ⟨args, cur, true, m⟩ = .ok out →
        Reads left m cur := fun args m cur out =>
      reads_of_cooked fun rest shorter => ih rest (by omega)
    refine ⟨fun args out cooked => ?_, inside⟩
    cases left with
    | nil => exact ⟨[], .empty⟩
    | cons c rest =>
      cases blank : isBlank c with
      | true =>
        unfold lexCookedFrom at cooked
        rw [lexCookedLoop_blank args blank] at cooked
        obtain ⟨tokens, layout⟩ := (ih rest (by simpa using bound)).1 args out cooked
        exact ⟨tokens, .blank blank layout⟩
      | false =>
        refine (inside args .bare [] out ?_).layout blank
        rw [← cooked]
        unfold lexCookedFrom
        rw [lexCookedLoop_cons args true (.inl rfl), lexCookedLoop_cons args false (.inr ⟨rfl, blank⟩)]

theorem layout_of_cooked (cooked : lexCookedArgs command = .ok args) :
    ∃ tokens, Layout command tokens ∧ tokens.map ArgToken.value = args := by
  obtain ⟨tokens, layout⟩ := (layout_of_shorter (command.length + 1) command (Nat.lt_succ_self _)).1 [] args cooked
  refine ⟨tokens, layout, ?_⟩
  have found : lexCookedArgs command = .ok ([] ++ tokens.map ArgToken.value) := lexCookedFrom_layout layout []
  rw [cooked] at found
  simpa using found.symm

theorem lexArgs_layout (layout : Layout command tokens) : lexArgs command = .ok (.ok tokens) := by
  have first : lexCookedArgs command = .ok (tokens.map ArgToken.value) := lexCookedFrom_layout layout []
  have second : lexRawSpans command (tokens.map ArgToken.value) = .ok tokens := lexRawFrom_layout layout [] [] rfl
  rw [lexArgs, first]
  dsimp only
  rw [second]
  rfl

theorem splitArgs_layout (layout : Layout command tokens) :
    splitArgs command = .ok (.ok (tokens.map ArgToken.value)) := by
  rw [splitArgs, lexArgs_layout layout]
  rfl

/-! ## Rendered arguments -/

theorem layout_join (pieces : ∀ token ∈ tokens, Piece token) :
    Layout (join [space] (tokens.map ArgToken.raw)) tokens := by
  induction tokens with
  | nil => exact .empty
  | cons token rest ih =>
    have piece := pieces token mem_cons_self
    cases rest with
    | nil => exact .last piece
    | cons next later =>
      have tail := ih fun other mem => pieces other (mem_cons_of_mem _ mem)
      have split : join [space] ((token :: next :: later).map ArgToken.raw) =
          token.raw ++ space :: join [space] ((next :: later).map ArgToken.raw) := by
        simp [join]
      rw [split]
      exact .token piece rfl tail

theorem action_safe (safe : safeRune c.toNat = true) : action .bare c = .keep := by
  have other : ∀ d, safeRune d.toNat = false → c ≠ d := by
    rintro d unsafeByte rfl
    cases unsafeByte.symm.trans safe
  have nonblank : ¬ isBlank c = true := by simp [isBlank, other space rfl, other 0x09 rfl, other 0x0A rfl]
  simp only [action]
  rw [if_neg nonblank, if_neg (other singleQuote rfl), if_neg (other doubleQuote rfl), if_neg (other backslash rfl)]

theorem eat_safe (safe : ∀ c ∈ raw, safeRune c.toNat = true) : eat raw .bare cur = some (.bare, cur ++ raw) := by
  induction raw generalizing cur with
  | nil => simp [eat]
  | cons c rest ih =>
    rw [eat_cons, action_safe (safe c mem_cons_self)]
    rw [ih fun d mem => safe d (mem_cons_of_mem _ mem), append_assoc]
    rfl

theorem safe_bytes {arg : Bytes} (safe : isSafeArg arg = true) : ∀ c ∈ arg, safeRune c.toNat = true := by
  have all := all_eq_true.mp safe
  have low : ∀ r ∈ runes arg, r < 0x80 := by
    intro r mem
    have kept := all r mem
    simp only [safeRune, mem_cons, not_mem_nil, or_false, Bool.or_eq_true, decide_eq_true_eq] at kept
    omega
  have same : runes arg = arg.map UInt8.toNat := bytes_of_ascii low
  intro c mem
  exact all _ (same ▸ mem_map_of_mem mem)

theorem eat_escapeQuotes : eat (escapeQuotes raw ++ rest) .single cur = eat rest .single (cur ++ raw) := by
  induction raw generalizing cur with
  | nil => simp
  | cons c raw ih =>
    by_cases quote : c = singleQuote
    · subst quote
      have escaped : escapeQuotes (singleQuote :: raw) ++ rest =
          singleQuote :: backslash :: singleQuote :: singleQuote :: (escapeQuotes raw ++ rest) := by
        simp
      rw [escaped]
      change eat (escapeQuotes raw ++ rest) .single (cur ++ [singleQuote]) = _
      rw [ih, append_assoc]
      rfl
    have kept : escapeQuotes (c :: raw) ++ rest = c :: (escapeQuotes raw ++ rest) := by simp [quote]
    have plain : action .single c = .keep := if_neg quote
    rw [kept, eat_cons, plain]
    rw [ih, append_assoc]
    rfl

theorem quoteArg_piece (arg : Bytes) : Piece ⟨quoteArg arg, arg⟩ := by
  unfold quoteArg
  split
  · rename_i empty
    subst empty
    exact ⟨by simp, rfl⟩
  rename_i nonempty
  split
  · rename_i safe
    exact ⟨nonempty, eat_safe (safe_bytes safe)⟩
  refine ⟨by simp, ?_⟩
  change eat (escapeQuotes arg ++ [singleQuote]) .single [] = _
  rw [eat_escapeQuotes]
  rfl

theorem joinArgs_layout (argv : List Bytes) : Layout (joinArgs argv) (argv.map fun arg => ⟨quoteArg arg, arg⟩) := by
  have pieces : ∀ token ∈ argv.map fun arg => (⟨quoteArg arg, arg⟩ : ArgToken), Piece token := by
    intro token mem
    obtain ⟨arg, -, rfl⟩ := mem_map.mp mem
    exact quoteArg_piece arg
  have rendered := layout_join pieces
  unfold joinArgs
  split
  · rename_i empty
    rw [length_eq_zero_iff.mp empty]
    exact .empty
  · simpa [Function.comp_def] using rendered

theorem Layout.pieces (layout : Layout command tokens) : ∀ token ∈ tokens, Piece token := by
  induction layout with
  | empty => nofun
  | blank _ _ ih => exact ih
  | last piece =>
    intro token mem
    rwa [mem_singleton.mp mem]
  | token piece _ _ ih =>
    intro token mem
    rcases mem_cons.mp mem with rfl | mem
    · exact piece
    · exact ih token mem

def rerender (tokens : List ArgToken) : List ArgToken :=
  tokens.mapIdx fun i token => if chosen i then { token with raw := quoteArg token.value } else token

theorem rerender_pieces (pieces : ∀ token ∈ tokens, Piece token) : ∀ token ∈ rerender chosen tokens, Piece token := by
  intro token mem
  obtain ⟨i, bound, rfl⟩ := mem_mapIdx.mp mem
  split
  · exact quoteArg_piece _
  · exact pieces _ (getElem_mem bound)

theorem rerender_values (tokens : List ArgToken) :
    (rerender chosen tokens).map ArgToken.value = tokens.map ArgToken.value := by
  unfold rerender
  refine ext_getElem (by simp) fun i _ _ => ?_
  simp only [getElem_map, getElem_mapIdx]
  split <;> rfl

/-- Splitting what was joined gives the arguments back.  A command that the first pass accepts is
lexed without a panic into its layout; each raw token is lexed to its value alone; and the command
with any of its tokens rendered again has the same arguments. -/
theorem tokenizer_inverse : (∀ argv, splitArgs (joinArgs argv) = .ok (.ok argv)) ∧
    ∀ command args, lexCookedArgs command = .ok args →
      ∃ tokens, lexArgs command = .ok (.ok tokens) ∧ tokens.map ArgToken.value = args ∧ Layout command tokens ∧
        (∀ token ∈ tokens, lexArgs token.raw = .ok (.ok [token])) ∧
        ∀ chosen, splitArgs (join [space] ((rerender chosen tokens).map ArgToken.raw)) = .ok (.ok args) := by
  refine ⟨fun argv => ?_, fun command args cooked => ?_⟩
  · rw [splitArgs_layout (joinArgs_layout argv)]
    simp [Function.comp_def]
  · obtain ⟨tokens, layout, values⟩ := layout_of_cooked cooked
    refine ⟨tokens, lexArgs_layout layout, values, layout, fun token mem => ?_, fun chosen => ?_⟩
    · exact lexArgs_layout (.last (layout.pieces token mem))
    · rw [splitArgs_layout (layout_join (rerender_pieces chosen layout.pieces)), rerender_values, values]

/-- The theorem at a command with a quoted blank and an escaped quote. -/
theorem tokenizer_inverse_quoted : ∃ tokens, lexArgs "a  'b c'\\'".toUTF8.toList = .ok (.ok tokens) ∧
      tokens.map ArgToken.value = ["a".toUTF8.toList, "b c'".toUTF8.toList] := by
  obtain ⟨tokens, lexed, values, -⟩ := tokenizer_inverse.2 "a  'b c'\\'".toUTF8.toList
    ["a".toUTF8.toList, "b c'".toUTF8.toList] (by decide +kernel)
  exact ⟨tokens, lexed, values⟩

end AgentGrid.Launch
