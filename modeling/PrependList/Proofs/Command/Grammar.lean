import PrependList.Command.Arguments
import PrependList.Proofs.Text.Reading
import PrependList.Proofs.Text.Utf8

/-!
# The grammar of arguments

What an argument says, told by how it is written and without reading it: verbose flags only
(`IsVerbose`), a request (`Asks`), something that is refused (`IsRefused`), the separator, or none of
these (`IsPositional`). Reading agrees with the grammar in both directions, so the five classes are
all there is and no argument is in two of them.

A cluster is read as a whole before any letter counts. So its letters are looked at twice: once all
of them, for being known, and then up to the first that is a request.
-/

namespace PrependList.Command

/-- The letter as it stands in a cluster. -/
def Flag.initial (flag : Flag) : UInt8 := byte flag.letter

/-- The long flag as it stands on a command line. -/
def Flag.written (flag : Flag) : Argument := byte '-' :: byte '-' :: flag.name.map byte

/-- Two dashes and nothing else. -/
def separator : Argument := [byte '-', byte '-']

/-- The long verbose flag, or a cluster of its letter alone. -/
def IsVerbose (argument : Argument) : Prop :=
  argument = Flag.verbose.written
    ∨ ∃ more, argument = byte '-' :: List.replicate (more + 1) Flag.verbose.initial

/-- A long flag that is a request, or a cluster of known letters in which it comes first among those
that are not verbose flags. -/
inductive Asks (request : Request) : Argument → Prop where
  | long : Asks request (Flag.request request).written
  | cluster (earlier : Nat) (others : List Flag) :
      Asks request (byte '-' :: (List.replicate earlier Flag.verbose.initial
        ++ (Flag.request request).initial :: others.map Flag.initial))

/-- The bytes are the encodings of some characters. -/
def Encodes (bytes : List UInt8) : Prop :=
  ∃ cs : List Char, bytes = cs.flatMap String.utf8EncodeChar

/-- A long flag with a value, or a long name that is no text. -/
inductive IsRefused : Refusal → Argument → Prop where
  | value (flag : Flag) (value : List UInt8) :
      IsRefused (.unexpectedValue flag value) (flag.written ++ byte '=' :: value)
  | name {name tail : List UInt8} (hname : ¬ Encodes name) (hequals : byte '=' ∉ name)
      (htail : tail = [] ∨ ∃ value, tail = byte '=' :: value) :
      IsRefused (.unreadableName name) (byte '-' :: byte '-' :: (name ++ tail))

/-- None of the others. -/
structure IsPositional (argument : Argument) : Prop where
  not_verbose : ¬ IsVerbose argument
  not_asks : ∀ request, ¬ Asks request argument
  not_refused : ∀ refusal, ¬ IsRefused refusal argument
  not_separator : argument ≠ separator

/-! ## Letters and names -/

theorem Flag.ofLetter?_eq_some {letter : UInt8} {flag : Flag} :
    ofLetter? letter = some flag ↔ letter = flag.initial := by
  constructor
  · intro h
    have hfound := List.find?_some h
    exact (of_decide_eq_true hfound).symm
  · rintro rfl
    cases flag with
    | verbose => rfl
    | request request => cases request <;> rfl

theorem Flag.ofName?_eq_some {name : List UInt8} {flag : Flag} :
    ofName? name = some flag ↔ name = flag.name.map byte := by
  constructor
  · intro h
    have hfound := List.find?_some h
    exact (of_decide_eq_true hfound).symm
  · rintro rfl
    cases flag with
    | verbose => rfl
    | request request => cases request <;> rfl

/-- Letters are flags exactly if they are the initials of some. -/
theorem mapM_ofLetter?_eq_some {letters : List UInt8} {flags : List Flag} :
    letters.mapM Flag.ofLetter? = some flags ↔ letters = flags.map Flag.initial :=
  mapM_eq_some_iff fun _ _ => Flag.ofLetter?_eq_some

/-- Flags are verbose ones alone, or some verbose ones and then a request. -/
theorem verbose_or_request (flags : List Flag) :
    (flags.findSome? Flag.request? = none ∧ flags = List.replicate flags.length Flag.verbose)
      ∨ ∃ request earlier others, flags.findSome? Flag.request? = some request
          ∧ flags = List.replicate earlier Flag.verbose ++ .request request :: others := by
  induction flags with
  | nil => exact Or.inl ⟨rfl, rfl⟩
  | cons flag flags ih =>
    cases flag with
    | request request => exact Or.inr ⟨request, 0, flags, rfl, rfl⟩
    | verbose =>
      rcases ih with ⟨hnone, hall⟩ | ⟨request, earlier, others, hsome, hall⟩
      · exact Or.inl ⟨hnone, congrArg (List.cons Flag.verbose) hall⟩
      · exact Or.inr ⟨request, earlier + 1, others, hsome, congrArg (List.cons Flag.verbose) hall⟩

/-- A text is its name and what follows from the first equals sign on. -/
theorem takeWhile_dropWhile_equals {name tail : List UInt8} (hequals : byte '=' ∉ name)
    (htail : tail = [] ∨ ∃ value, tail = byte '=' :: value) :
    (name ++ tail).takeWhile (· != byte '=') = name
      ∧ (name ++ tail).dropWhile (· != byte '=') = tail := by
  have hname : ∀ b ∈ name, (b != byte '=') = true :=
    fun b hb => bne_iff_ne.mpr (fun heq => hequals (heq ▸ hb))
  rw [List.takeWhile_append_of_pos hname, List.dropWhile_append_of_pos hname]
  rcases htail with rfl | ⟨value, rfl⟩
  · exact ⟨List.append_nil name, rfl⟩
  · exact ⟨List.append_nil name, rfl⟩

theorem exists_name (text : List UInt8) :
    ∃ name tail, text = name ++ tail ∧ byte '=' ∉ name
      ∧ (tail = [] ∨ ∃ value, tail = byte '=' :: value) := by
  refine ⟨text.takeWhile (· != byte '='), text.dropWhile (· != byte '='),
    List.takeWhile_append_dropWhile.symm, fun hmem => ?_, ?_⟩
  · have hall := List.all_eq_true.mp (List.all_takeWhile (p := (· != byte '=')) (l := text))
    exact absurd (hall _ hmem) (by simp)
  · cases htail : text.dropWhile (· != byte '=') with
    | nil => exact Or.inl rfl
    | cons b value =>
      have hb := List.head?_dropWhile_not (· != byte '=') text
      rw [htail] at hb
      exact Or.inr ⟨value, by rw [bne_eq_false_iff_eq.mp hb]⟩

/-! ## Reading a cluster -/

theorem read_initials {flag : Flag} {flags : List Flag} :
    read (byte '-' :: (flag :: flags).map Flag.initial) = .flags (flag :: flags) := by
  -- no initial is a dash, so the cluster is not taken for a long argument
  have hdash : flag.initial ≠ byte '-' := by
    cases flag with
    | verbose => decide
    | request request => cases request <;> decide
  have hletters : ((flag :: flags).map Flag.initial).mapM Flag.ofLetter? = some (flag :: flags) :=
    mapM_ofLetter?_eq_some.mpr rfl
  rw [List.map_cons] at hletters ⊢
  show (if flag.initial = byte '-' then _ else readCluster _) = _
  rw [if_neg hdash, readCluster, hletters]

theorem read_cluster_verbose (more : Nat) :
    read (byte '-' :: List.replicate (more + 1) Flag.verbose.initial)
      = .flags (List.replicate (more + 1) .verbose) := by
  rw [← List.map_replicate, List.replicate_succ]
  exact read_initials

/-- What a request is read as: its flags lead to it, whatever comes after it in its cluster. -/
theorem Asks.read {request : Request} {argument : Argument} (h : Asks request argument) :
    ∃ flags, Command.read argument = .flags flags
      ∧ flags.findSome? Flag.request? = some request := by
  cases h with
  | long => exact ⟨[.request request], by cases request <;> decide, rfl⟩
  | cluster earlier others =>
    refine ⟨List.replicate earlier .verbose ++ .request request :: others, ?_, ?_⟩
    · rw [← List.map_replicate, ← List.map_cons, ← List.map_append]
      cases earlier with
      | zero => exact read_initials
      | succ earlier => exact read_initials
    · induction earlier with
      | zero => rfl
      | succ earlier ih => exact ih

/-! ## Reading a long argument -/

/-- The reading of a long argument, told by its name and what follows it. -/
theorem read_long {name tail : List UInt8} (hequals : byte '=' ∉ name)
    (htail : tail = [] ∨ ∃ value, tail = byte '=' :: value) (hne : name ++ tail ≠ []) :
    read (byte '-' :: byte '-' :: (name ++ tail))
      = if Utf8.isText name then
          match Flag.ofName? name with
          | some flag =>
            if tail = [] then .flags [flag] else .refused (.unexpectedValue flag tail.tail)
          | none => .positional
        else .refused (.unreadableName name) := by
  obtain ⟨htake, hdrop⟩ := takeWhile_dropWhile_equals hequals htail
  have hnonempty : (name ++ tail).isEmpty = false := by simpa using hne
  show readLong (name ++ tail) = _
  simp only [readLong, htake, hdrop, hnonempty]
  cases Utf8.isText name with
  | false => rfl
  | true =>
    cases Flag.ofName? name with
    | none => rfl
    | some flag => cases tail <;> rfl

theorem Flag.equals_not_mem_name (flag : Flag) : byte '=' ∉ flag.name.map byte := by
  cases flag with
  | verbose => decide
  | request request => cases request <;> decide

theorem IsRefused.read {refusal : Refusal} {argument : Argument} (h : IsRefused refusal argument) :
    Command.read argument = .refused refusal := by
  cases h with
  | value flag value =>
    have htext : Utf8.isText (flag.name.map byte) = true := by
      cases flag with
      | verbose => decide
      | request request => cases request <;> decide
    have hname : Flag.ofName? (flag.name.map byte) = some flag := Flag.ofName?_eq_some.mpr rfl
    have htail : byte '=' :: value = [] ∨ ∃ other, byte '=' :: value = byte '=' :: other :=
      Or.inr ⟨value, rfl⟩
    have hread := read_long flag.equals_not_mem_name htail (by simp)
    rw [if_pos htext, hname] at hread
    exact hread
  | @name name tail hname hequals htail =>
    have hne : name ++ tail ≠ [] := fun h => hname ⟨[], (List.append_eq_nil_iff.mp h).1⟩
    rw [read_long hequals htail hne, if_neg (fun htext => hname (Utf8.isText_iff.mp htext))]

theorem read_separator : read separator = .separator := by decide

/-! ## Reading agrees with the grammar -/

theorem IsVerbose.read {argument : Argument} (h : IsVerbose argument) :
    ∃ flags, Command.read argument = .flags flags ∧ flags.findSome? Flag.request? = none := by
  rcases h with rfl | ⟨more, rfl⟩
  · exact ⟨[.verbose], by decide, rfl⟩
  · refine ⟨_, read_cluster_verbose more, ?_⟩
    exact List.findSome?_eq_none_iff.mpr (fun flag hflag => by rw [List.eq_of_mem_replicate hflag]; rfl)

/-- Behind two dashes only an unknown name that is text is positional. -/
theorem IsPositional.read_long {text : List UInt8}
    (h : IsPositional (byte '-' :: byte '-' :: text)) :
    Command.read (byte '-' :: byte '-' :: text) = .positional := by
  obtain ⟨name, tail, rfl, hequals, htail⟩ := exists_name text
  have hne : name ++ tail ≠ [] := fun hnil => h.not_separator (by rw [hnil]; rfl)
  rw [Command.read_long hequals htail hne]
  by_cases htext : Utf8.isText name = true
  · rw [if_pos htext]
    cases hflag : Flag.ofName? name with
    | none => rfl
    | some flag =>
      -- a known name is a flag, alone or with a value
      obtain rfl := Flag.ofName?_eq_some.mp hflag
      rcases htail with rfl | ⟨value, rfl⟩
      · rw [List.append_nil] at h
        cases flag with
        | verbose => exact absurd (Or.inl rfl) h.not_verbose
        | request request => exact absurd Asks.long (h.not_asks request)
      · exact absurd (IsRefused.value flag value) (h.not_refused _)
  · have hname : ¬ Encodes name := fun hname => htext (Utf8.isText_iff.mpr hname)
    exact absurd (IsRefused.name hname hequals htail) (h.not_refused _)

/-- Behind one dash only letters that are not all known are positional. -/
theorem IsPositional.readCluster {letters : List UInt8} (hne : letters ≠ [])
    (h : IsPositional (byte '-' :: letters)) : Command.readCluster letters = .positional := by
  rw [Command.readCluster]
  cases hflags : letters.mapM Flag.ofLetter? with
  | none => rfl
  | some flags =>
    have hletters := mapM_ofLetter?_eq_some.mp hflags
    rw [hletters] at h hne
    rcases verbose_or_request flags with ⟨-, hall⟩ | ⟨request, earlier, others, -, hall⟩
    · cases flags with
      | nil => exact absurd rfl hne
      | cons flag flags =>
        have hverbose : (flag :: flags).map Flag.initial
            = List.replicate (flags.length + 1) Flag.verbose.initial :=
          (congrArg (List.map Flag.initial) hall).trans List.map_replicate
        exact absurd (Or.inr ⟨flags.length, by rw [hverbose]⟩) h.not_verbose
    · rw [hall, List.map_append, List.map_replicate, List.map_cons] at h
      exact absurd (Asks.cluster earlier others) (h.not_asks request)

/-- **What is none of the others is positional.** -/
theorem IsPositional.read {argument : Argument} (h : IsPositional argument) :
    Command.read argument = .positional := by
  rcases argument with _ | ⟨first, rest⟩
  · rfl
  by_cases hfirst : first = byte '-'
  · subst hfirst
    rcases rest with _ | ⟨second, text⟩
    · rfl
    by_cases hsecond : second = byte '-'
    · subst hsecond
      exact h.read_long
    · refine (if_neg hsecond).trans ?_
      exact h.readCluster (List.cons_ne_nil second text)
  · exact if_neg hfirst

section

variable {argument : Argument} {reading : Reading}

/-- What is not read as flags is neither a verbose flag nor a request. -/
theorem not_flag_of_read (hread : read argument = reading) (h : ∀ flags, reading ≠ .flags flags) :
    ¬ IsVerbose argument ∧ ∀ request, ¬ Asks request argument := by
  refine ⟨fun hverbose => ?_, fun request hasks => ?_⟩
  · obtain ⟨flags, hflags, -⟩ := hverbose.read
    exact h flags (hread.symm.trans hflags)
  · obtain ⟨flags, hflags, -⟩ := hasks.read
    exact h flags (hread.symm.trans hflags)

theorem not_refused_of_read (hread : read argument = reading)
    (h : ∀ refusal, reading ≠ .refused refusal) (refusal : Refusal) :
    ¬ IsRefused refusal argument :=
  fun hrefused => h refusal (hread.symm.trans hrefused.read)

/-- **Reading agrees with the grammar** on what starts the extra arguments. -/
theorem read_eq_positional_iff : read argument = .positional ↔ IsPositional argument := by
  refine ⟨fun h => ?_, IsPositional.read⟩
  have hflag := not_flag_of_read h (by simp)
  refine ⟨hflag.1, hflag.2, not_refused_of_read h (by simp), fun hseparator => ?_⟩
  rw [hseparator, read_separator] at h
  cases h

/-- The separator is no request, and it is not refused. -/
theorem separator_alone :
    (∀ request, ¬ Asks request separator) ∧ ∀ refusal, ¬ IsRefused refusal separator :=
  ⟨(not_flag_of_read read_separator (by simp)).2, not_refused_of_read read_separator (by simp)⟩

theorem IsRefused.not_asks {refusal : Refusal} (h : IsRefused refusal argument)
    (request : Request) : ¬ Asks request argument :=
  (not_flag_of_read h.read (by simp)).2 request

end

/-- Every argument is in one of the five classes. -/
theorem classes (argument : Argument) :
    IsVerbose argument ∨ (∃ request, Asks request argument)
      ∨ (∃ refusal, IsRefused refusal argument) ∨ argument = separator ∨ IsPositional argument := by
  by_cases hverbose : IsVerbose argument
  · exact Or.inl hverbose
  by_cases hasks : ∃ request, Asks request argument
  · exact Or.inr (Or.inl hasks)
  by_cases hrefused : ∃ refusal, IsRefused refusal argument
  · exact Or.inr (Or.inr (Or.inl hrefused))
  by_cases hseparator : argument = separator
  · exact Or.inr (Or.inr (Or.inr (Or.inl hseparator)))
  exact Or.inr (Or.inr (Or.inr (Or.inr ⟨hverbose, fun request h => hasks ⟨request, h⟩,
    fun refusal h => hrefused ⟨refusal, h⟩, hseparator⟩)))

/-- A verbose flag is in none of the other classes. -/
theorem IsVerbose.alone {argument : Argument} (h : IsVerbose argument) :
    (∀ request, ¬ Asks request argument) ∧ (∀ refusal, ¬ IsRefused refusal argument)
      ∧ argument ≠ separator ∧ ¬ IsPositional argument := by
  obtain ⟨flags, hread, hnone⟩ := h.read
  refine ⟨fun request hasks => ?_, not_refused_of_read hread (by simp), fun hseparator => ?_,
    fun hpositional => hpositional.not_verbose h⟩
  · obtain ⟨others, hothers, hsome⟩ := hasks.read
    rw [hread] at hothers
    rw [← Reading.flags.inj hothers, hnone] at hsome
    cases hsome
  · rw [hseparator, read_separator] at hread
    cases hread

end PrependList.Command
