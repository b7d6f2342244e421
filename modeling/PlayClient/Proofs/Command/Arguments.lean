import PlayClient.Command.Arguments
import PlayClient.Proofs.Outcome

set_option autoImplicit false

namespace PlayClient.Command

theorem listed_flag (name : String) (flag : Flag) (listed : (name, flag) ∈ spellings) : flag ∈ flags := by
  obtain ⟨other, member, spelled⟩ := List.mem_flatMap.mp listed
  obtain ⟨spelling, -, same⟩ := List.mem_map.mp spelled
  rw [← (Prod.mk.inj same).2]
  exact member

theorem spelled_flag (name : String) (flag : Flag) (spelled : spellings.lookup name = some flag) : flag ∈ flags := by
  obtain ⟨front, back, whole, -⟩ := List.lookup_eq_some_iff.mp spelled
  apply listed_flag name flag
  rw [whole]
  exact List.mem_append_right front List.mem_cons_self

/-! ## What is attached to flags -/

theorem dropped_ends (text : String) (n : Nat) : ∃ front, text = front ++ String.ofList (text.toList.drop n) := by
  refine ⟨String.ofList (text.toList.take n), String.toList_inj.mp ?_⟩
  simp

theorem assignment_ends (text start rest : String) (split : splitAssignment text = (start, some rest)) :
    ∃ front, text = front ++ rest := by
  rw [splitAssignment] at split
  generalize (text.toList.takeWhile (· ≠ '=')).length = n at split
  cases dropped : text.toList.drop n with
  | nil => simp [dropped] at split
  | cons c others =>
      have later : text.toList.drop (n + 1) = others := by rw [← List.tail_drop, dropped, List.tail_cons]
      simp only [dropped, Prod.mk.injEq, Option.some.injEq] at split
      rw [← split.2, ← later]
      exact dropped_ends text (n + 1)

section

-- The empty text has it, and the end of every text that does.
structure KeptByEnds (admits : String → Prop) : Prop where
  empty : admits ""
  ends : ∀ front rest, admits (front ++ rest) → admits rest

variable (admits : String → Prop) (kept : KeptByEnds admits)

-- Unknown arguments are refused in the end, so that nothing is asked of them.
def Token.Admitted : Token → Prop
  | .operand text => admits text
  | .flag named _ attached => named ∈ flags ∧ ∀ text ∈ attached, admits text
  | _ => True

def Uses.Admitted (uses : Uses) : Prop := ∀ use ∈ uses, use.1 ∈ flags ∧ ∀ text ∈ use.2, admits text

include kept

theorem reading_admitted (text : String) (admitted : admits text) (name : String) (flag : Flag)
    (attached : Option String) (read : (name, flag, attached) ∈ readings text) :
    flag ∈ flags ∧ ∀ given ∈ attached, admits given := by
  rw [readings] at read
  by_cases long : text.startsWith "--" = true
  · rw [if_pos long] at read
    obtain ⟨found, member, same⟩ := List.mem_map.mp read
    cases same
    refine ⟨listed_flag found.1 found.2 (List.mem_filter.mp member).1, ?_⟩
    intro given split
    obtain ⟨front, whole⟩ := assignment_ends text _ given (Prod.ext rfl split)
    exact kept.ends front given (whole ▸ admitted)
  · rw [if_neg long] at read
    obtain ⟨found, member, same⟩ := List.mem_map.mp read
    cases same
    refine ⟨listed_flag found.1 found.2 (List.mem_filter.mp member).1, ?_⟩
    intro given split
    cases split
    obtain ⟨front, whole⟩ := dropped_ends text 2
    exact kept.ends front _ (whole ▸ admitted)

theorem token_admitted (text : String) (admitted : admits text) (token : Token) :
    classify text = .ok token → token.Admitted admits := by
  fun_cases classify text with
  | case2 dash flag spelled =>
      intro same
      cases same
      exact ⟨spelled_flag text flag spelled, by simp⟩
  | case4 dash whole lone start value flag spelled split =>
      intro same
      cases same
      refine ⟨spelled_flag start flag spelled, ?_⟩
      intro given same
      cases same
      obtain ⟨front, whole⟩ := assignment_ends text start value split
      exact kept.ends front value (whole ▸ admitted)
  | case5 dash whole lone start given split name flag attached read =>
      intro same
      cases same
      exact reading_admitted admits kept text admitted name flag attached (by rw [read]; exact List.mem_cons_self)
  | case7 =>
      intro same
      cases same
      trivial
  | case8 => simp
  | _ =>
      intro same
      cases same
      exact admitted

theorem tokens_admitted (texts : List String) (admitted : ∀ text ∈ texts, admits text) (found : List Token)
    (read : tokens texts = .ok found) : ∀ token ∈ found, token.Admitted admits := by
  induction texts generalizing found with
  | nil =>
      cases read
      simp
  | cons text rest ih =>
      obtain ⟨here, later⟩ := List.forall_mem_cons.mp admitted
      rw [tokens] at read
      by_cases mark : text = endMarkText
      · rw [if_pos mark] at read
        rw [← Except.ok.inj read, List.forall_mem_cons, List.forall_mem_map]
        exact ⟨trivial, later⟩
      · rw [if_neg mark, Outcome.bind_ok_iff] at read
        obtain ⟨token, classified, read⟩ := read
        obtain ⟨others, remaining, same⟩ := (Outcome.bind_ok_iff _ _ _).mp read
        rw [← Except.ok.inj same, List.forall_mem_cons]
        exact ⟨token_admitted admits kept text here token classified, ih later others remaining⟩

theorem attached_uses_admitted (short : Bool) (flag : Flag) (attached : List Char) (listed : flag ∈ flags)
    (admitted : admits (String.ofList attached)) (found : Uses) (used : attachedUses short flag attached = .ok found) :
    found.Admitted admits := by
  revert used
  fun_induction attachedUses short flag attached generalizing found with
  | case1 attached short flag takes =>
      intro used
      cases used
      simpa [Uses.Admitted] using ⟨listed, admitted⟩
  | case3 flag plain c next spelled =>
      intro used
      cases used
      simpa [Uses.Admitted] using ⟨listed, spelled_flag _ next spelled⟩
  | case4 flag plain c rest next spelled more ih =>
      intro used
      obtain ⟨others, later, same⟩ := (Outcome.bind_ok_iff _ _ _).mp used
      have ends := kept.ends (String.ofList [c]) (String.ofList rest) (by simpa using admitted)
      rw [← Except.ok.inj same, Uses.Admitted, List.forall_mem_cons]
      exact ⟨⟨listed, by simp⟩, ih (spelled_flag _ next spelled) ends others later⟩
  | _ => simp

theorem uses_admitted (flag : Flag) (name : String) (attached : Option String)
    (admitted : Token.Admitted admits (.flag flag name attached)) (found : Uses)
    (used : uses flag name attached = .ok found) : found.Admitted admits := by
  obtain ⟨listed, texts⟩ := admitted
  cases attached with
  | none =>
      cases used
      simpa [Uses.Admitted] using listed
  | some text =>
      have given : admits (String.ofList text.toList) := by simpa using texts
      exact attached_uses_admitted admits kept _ flag text.toList listed given found used

/-! ## What every flag keeps -/

omit kept

-- No flag that can be given changes it.
def KeptByFlags (holds : Arguments → Prop) : Prop :=
  ∀ flag ∈ flags, ∀ arguments given next, admits given → holds arguments →
    arguments.apply given flag.effect = .ok next → holds next

variable (holds : Arguments → Prop) (keeps : KeptByFlags admits holds)

include keeps

theorem apply_uses_kept (arguments next : Arguments) (operand : String) (admitted : admits operand) (found : Uses)
    (listed : found.Admitted admits) (first : holds arguments)
    (applied : arguments.applyUses operand found = .ok next) : holds next := by
  refine Outcome.fold_kept holds _ found arguments next ?_ first applied
  intro use member before after
  obtain ⟨flag, texts⟩ := listed use member
  have here : admits (use.2.getD operand) := by
    cases given : use.2 with
    | none => exact admitted
    | some text => exact texts text given
  exact keeps use.1 flag before _ after here

include kept

-- Tokens are read one or two at a time, so the recursion is on the tokens that are left.
theorem read_tokens_kept (arguments result : Arguments) (extras : List String) (found : List Token)
    (listed : ∀ token ∈ found, token.Admitted admits) (first : holds arguments)
    (read : readTokens arguments extras found = .ok result) : holds result := by
  match found, listed, read with
  | [], listed, read =>
      rw [readTokens] at read
      by_cases none : extras = []
      · rw [if_pos none] at read
        exact Except.ok.inj read ▸ first
      · rw [if_neg none] at read
        cases read
  | .operand text :: rest, listed, read =>
      rw [readTokens] at read
      exact read_tokens_kept arguments result _ rest (List.forall_mem_cons.mp listed).2 first read
  | .endMark :: rest, listed, read =>
      rw [readTokens] at read
      exact read_tokens_kept arguments result _ rest (List.forall_mem_cons.mp listed).2 first read
  | .unknown text :: rest, listed, read =>
      rw [readTokens] at read
      exact read_tokens_kept arguments result _ rest (List.forall_mem_cons.mp listed).2 first read
  | .flag flag name attached :: rest, listed, read =>
      obtain ⟨token, rest_listed⟩ := List.forall_mem_cons.mp listed
      rw [readTokens, Outcome.bind_ok_iff] at read
      obtain ⟨found, used, read⟩ := read
      have flagged := uses_admitted admits kept flag name attached token found
        ((Outcome.map_error_ok_iff _ _ _).mp used)
      cases opened : found.open? with
      | none =>
          simp only [opened, Outcome.bind_ok_iff] at read
          obtain ⟨next, applied, read⟩ := read
          have here := apply_uses_kept admits holds keeps arguments next "" kept.empty found flagged first applied
          exact read_tokens_kept next result extras rest rest_listed here read
      | some waiting =>
          match rest, rest_listed, read with
          | .operand text :: later, rest_listed, read =>
              obtain ⟨operand, later_listed⟩ := List.forall_mem_cons.mp rest_listed
              simp only [opened, Outcome.bind_ok_iff] at read
              obtain ⟨next, applied, read⟩ := read
              have here := apply_uses_kept admits holds keeps arguments next text operand found flagged first applied
              exact read_tokens_kept next result extras later later_listed here read
          | [], _, read | .endMark :: _, _, read | .unknown _ :: _, _, read | .flag _ _ _ :: _, _, read =>
              simp [opened] at read

theorem arguments_kept (first : holds .standard) (texts : List String) (admitted : ∀ text ∈ texts, admits text)
    (arguments : Arguments) (parsed : Arguments.ofTexts texts = .ok arguments) : holds arguments := by
  obtain ⟨found, read, parsed⟩ := (Outcome.bind_ok_iff _ _ _).mp parsed
  have listed := tokens_admitted admits kept texts admitted found ((Outcome.map_error_ok_iff _ _ _).mp read)
  exact read_tokens_kept admits kept holds keeps .standard arguments [] found listed first parsed

end

section

variable (texts : List String) (arguments : Arguments) (parsed : Arguments.ofTexts texts = .ok arguments)

include parsed

theorem unflagged_text (option : TextOption) (unflagged : ∀ flag ∈ flags, flag.effect ≠ .setText option) :
    arguments.settings.text option = Settings.unset.text option := by
  have kept : KeptByEnds fun _ => True := ⟨trivial, fun _ _ _ => trivial⟩
  refine arguments_kept (fun _ => True) kept (fun arguments => arguments.settings.text option = Settings.unset.text option)
    ?_ rfl texts (fun _ _ => trivial) arguments parsed
  intro flag member arguments given next _ before applied
  have other := unflagged flag member
  cases effect : flag.effect with
  | help =>
      rw [effect] at applied
      cases applied
  | output =>
      rw [effect] at applied
      cases applied
      exact before
  | setText changed =>
      rw [effect] at applied other
      cases applied
      have apart : option ≠ changed := fun same => other (same ▸ rfl)
      rw [Arguments.settings_assign, Assignment.settle, Settings.text_set_text, if_neg apart, before]
  | setFlag changed value =>
      rw [effect] at applied
      cases applied
      rw [Arguments.settings_assign, Assignment.settle, Settings.text_set_flag, before]
  | verbose =>
      rw [effect] at applied
      cases applied
      exact before

-- The command line leaves the folders of a client's sources and resources as they are.
theorem folders_unset :
    arguments.settings.sourceFolder = Settings.unset.sourceFolder ∧
      arguments.settings.resourcesFolder = Settings.unset.resourcesFolder :=
  ⟨unflagged_text texts arguments parsed .sourceFolder (by decide +kernel),
    unflagged_text texts arguments parsed .resourcesFolder (by decide +kernel)⟩

end

end PlayClient.Command
