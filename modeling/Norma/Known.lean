import Norma.Link

namespace Norma

def knownHeaders : List (Text × Key × List Int) := [
  ("SYST:ERR", .systErr, []),
  ("SYST:ERR:ALL", .systErrAll, []),
  ("SYNC:SOUR", .syncSour, []),
  ("TRIG:STAR:SOUR", .trigStarSour, []),
  ("TRIG:STOP:SOUR", .trigStopSour, []),
  ("SYST:LANG", .systLang, []),
  ("FUNC", .func, []),
  ("FUNC:CONC", .funcConc, []),
  ("CALC:TRAN:FREQ:FUNC", .calcTranFreqFunc, []),
  ("CALC:INT:FUNC", .calcIntFunc, []),
  ("SWE1:FUNC", .sweFunc, [1]),
  ("SWE2:FUNC", .sweFunc, [2]),
  ("DISP:USER:FUNC", .dispUserFunc, []),
  ("CALC:POW:EFF:REF", .calcPowEffRef, [0]),
  ("CALC:POW460:EFF:REF", .calcPowEffRef, [460]),
  ("FORM", .form, []),
  ("DATA", .data, []),
  ("DATA:STAT", .dataStat, []),
  ("CALC:DATA", .calcData, []),
  ("CALC:DATA:PRE", .calcDataPre, []),
  ("TRAC", .trac, []),
  ("TRAC:PRE", .tracPre, [])]

theorem findCommand_known :
    ∀ entry ∈ knownHeaders, findCommand (headerTokens [] entry.1) = some entry.2 := by
  decide +kernel

theorem knownHeaders_plain : ∀ entry ∈ knownHeaders, Unquoted entry.1 ∧
    Spaceless entry.1 ∧ ';' ∉ entry.1 ∧
    parseCommand entry.1 = ⟨entry.1, false, []⟩ ∧
    parseCommand (entry.1 ++ ['?']) = ⟨entry.1, true, []⟩ ∧ entry.1.head? ≠ some '*' ∧
    entry.1 ≠ [] ∧ ScpiClient.hasLineTerminator entry.1 = false := by
  decide +kernel

section

variable {header : Text} {key : Key} {suffixes : List Int}

theorem known_ends (h : (header, key, suffixes) ∈ knownHeaders) :
    ∃ c rest, header = c :: rest ∧ isSpace c = false := by
  obtain ⟨-, hspace, -, -, -, -, hne, -⟩ := knownHeaders_plain _ h
  obtain ⟨c, rest, rfl⟩ := List.exists_cons_of_ne_nil hne
  exact ⟨c, rest, rfl, hspace c (by simp)⟩

theorem handleLine_query (h : (header, key, suffixes) ∈ knownHeaders) (sim : NormaSimulator) :
    sim.handleLine (header ++ ['?']) =
      (execute key (received sim ⟨header, true, []⟩ key suffixes)).map fun a =>
        (a.sim, a.command.response) := by
  obtain ⟨hunquoted, hspace, hsemicolon, -, hparse, hstar, -⟩ := knownHeaders_plain _ h
  obtain ⟨c, rest, rfl, hc⟩ := known_ends h
  have hline : Unquoted (c :: rest ++ ['?']) := hunquoted.append (by decide)
  exact handleLine_known (hline.whole_iff.mpr (by simpa using hsemicolon))
    (trim_of_ends hc (by decide) rest) (by simp) hparse hstar (findCommand_known _ h)

theorem argumentsOf_rdropWhile (parameters : Text) :
    argumentsOf (parameters.rdropWhile isSpace) = argumentsOf parameters := by
  simp only [argumentsOf, trim_rdropWhile]

theorem trim_parameters {head : Text} (hspace : Spaceless head) (hne : head ≠ [])
    (parameters : Text) :
    trim (head ++ ' ' :: parameters) =
      if parameters.rdropWhile isSpace = [] then head
      else head ++ ' ' :: parameters.rdropWhile isSpace := by
  obtain ⟨c, rest, rfl⟩ := List.exists_cons_of_ne_nil hne
  rw [List.cons_append, trim_of_head (hspace c (by simp)), ← List.cons_append]
  split
  · next hblank =>
    have hparameters := List.rdropWhile_eq_nil_iff.mp hblank
    have hall : ∀ d ∈ ' ' :: parameters, isSpace d = true := by
      intro d hd
      rcases List.mem_cons.mp hd with rfl | hmem
      · rfl
      · exact hparameters d hmem
    rw [rdropWhile_append_blank hall, List.rdropWhile_eq_self_iff]
    intro hl
    simp [hspace _ (List.getLast_mem hl)]
  · next hne =>
    have hsplit : c :: rest ++ ' ' :: parameters = (c :: rest ++ [' ']) ++ parameters := by simp
    rw [hsplit, rdropWhile_append_of_ne hne]
    simp

theorem parseCommand_trim {head : Text} (hunquoted : Unquoted head)
    (hspace : Spaceless head) (hne : head ≠ [])
    (hargs : (parseCommand head).args = []) (parameters : Text) :
    parseCommand (trim (head ++ ' ' :: parameters)) =
      { parseCommand head with args := argumentsOf parameters } := by
  rw [trim_parameters hspace hne]
  split
  · next hblank =>
    have hnone : argumentsOf parameters = [] := by
      rw [← argumentsOf_rdropWhile, hblank]
      rfl
    rw [hnone, ← hargs]
  · rw [parseCommand_parameters hunquoted hspace, argumentsOf_rdropWhile]

theorem handleCommand_head {sim : NormaSimulator} {head : Text} {query : Bool}
    (h : (header, key, suffixes) ∈ knownHeaders) (hunquoted : Unquoted head)
    (hspace : Spaceless head) (hne : head ≠ [])
    (hparse : parseCommand head = ⟨header, query, []⟩) (parameters : Text) :
    handleCommand sim [] (trim (head ++ ' ' :: parameters)) =
      (execute key (received sim ⟨header, query, argumentsOf parameters⟩ key suffixes)).map
        (·.outcome (headerTokens [] header).dropLast) := by
  obtain ⟨-, -, -, -, -, hstar, -⟩ := knownHeaders_plain _ h
  have htrim := parseCommand_trim hunquoted hspace hne (by rw [hparse]) parameters
  rw [hparse] at htrim
  simp only [handleCommand, htrim, if_neg hstar, handleTree, findCommand_known _ h]
  rfl

theorem handleCommand_setting (h : (header, key, suffixes) ∈ knownHeaders) (sim : NormaSimulator)
    (parameters : Text) :
    handleCommand sim [] (trim (header ++ ' ' :: parameters)) =
      (execute key (received sim ⟨header, false, argumentsOf parameters⟩ key suffixes)).map
        (·.outcome (headerTokens [] header).dropLast) := by
  obtain ⟨hunquoted, hspace, -, hparse, -, -, hne, -⟩ := knownHeaders_plain _ h
  exact handleCommand_head h hunquoted hspace hne hparse parameters

theorem handleCommand_query (h : (header, key, suffixes) ∈ knownHeaders) (sim : NormaSimulator)
    (parameters : Text) :
    handleCommand sim [] (trim (header ++ ['?'] ++ ' ' :: parameters)) =
      (execute key (received sim ⟨header, true, argumentsOf parameters⟩ key suffixes)).map
        (·.outcome (headerTokens [] header).dropLast) := by
  obtain ⟨hunquoted, hspace, -, -, hparse, -, -, -⟩ := knownHeaders_plain _ h
  exact handleCommand_head h (hunquoted.append (by decide))
    (hspace.append (by decide)) (by simp) hparse parameters

theorem split_parameters {head parameters piece : Text} {pieces : List Text}
    (hunquoted : Unquoted head) (hsemicolon : ';' ∉ head)
    (hsplit : splitUnquoted parameters ';' = piece :: pieces) :
    splitUnquoted (head ++ ' ' :: parameters) ';' = (head ++ ' ' :: piece) :: pieces := by
  have hhead : Unquoted (head ++ [' ']) := hunquoted.append (by decide)
  have hwhole : Whole ';' (head ++ [' ']) := hhead.whole_iff.mpr (by simp [hsemicolon])
  have hline := hwhole.split_append hhead.quoteAfter parameters
  rw [hsplit, Cut.Scanner.prepend] at hline
  simpa using hline

theorem handleLine_whole_parameters {head parameters : Text} (hunquoted : Unquoted head)
    (hspace : Spaceless head) (hne : head ≠ []) (hsemicolon : ';' ∉ head)
    (hwhole : Whole ';' parameters) (sim : NormaSimulator) :
    sim.handleLine (head ++ ' ' :: parameters) =
      (handleCommand sim [] (trim (head ++ ' ' :: parameters))).map fun out =>
        (out.sim, out.response) := by
  have hhead : Unquoted (head ++ [' ']) := hunquoted.append (by decide)
  have hline : Whole ';' (head ++ [' '] ++ parameters) :=
    (Whole.append_iff hhead.quoteAfter).mpr ⟨hhead.whole_iff.mpr (by simp [hsemicolon]), hwhole⟩
  rw [List.append_assoc, List.singleton_append] at hline
  have htrim : trim (head ++ ' ' :: parameters) ≠ [] := by
    rw [trim_parameters hspace hne]
    split <;> simp [hne]
  exact handleLine_whole hline rfl htrim

theorem handleLine_setting (h : (header, key, suffixes) ∈ knownHeaders) (sim : NormaSimulator)
    {parameters : Text} (hwhole : Whole ';' parameters) :
    sim.handleLine (header ++ ' ' :: parameters) =
      (execute key (received sim ⟨header, false, argumentsOf parameters⟩ key suffixes)).map
        fun a => (a.sim, a.command.response) := by
  obtain ⟨hunquoted, hspace, hsemicolon, -, -, -, hne, -⟩ := knownHeaders_plain _ h
  rw [handleLine_whole_parameters hunquoted hspace hne hsemicolon hwhole, handleCommand_setting h,
    Option.map_map]
  rfl

theorem handleLine_request (h : (header, key, suffixes) ∈ knownHeaders) (sim : NormaSimulator)
    {parameters : Text} (hwhole : Whole ';' parameters) :
    sim.handleLine (header ++ ['?'] ++ ' ' :: parameters) =
      (execute key (received sim ⟨header, true, argumentsOf parameters⟩ key suffixes)).map
        fun a => (a.sim, a.command.response) := by
  obtain ⟨hunquoted, hspace, hsemicolon, -⟩ := knownHeaders_plain _ h
  have hspace' : Spaceless (header ++ ['?']) := hspace.append (by decide)
  rw [handleLine_whole_parameters (hunquoted.append (by decide)) hspace' (by simp)
    (by simp [hsemicolon]) hwhole, handleCommand_query h, Option.map_map]
  rfl

end

theorem Access.readInteger_accepted {a : Access} {min max value : Int} {text : Text}
    {body : Int → Access} (hargument : a.command.argument = some text)
    (hnumber : (parseNumber text).map toInt = some value) (hlow : min ≤ value)
    (hhigh : value ≤ max) : a.readInteger min max body = body value := by
  obtain ⟨number, hparse, rfl⟩ := Option.map_eq_some_iff.mp hnumber
  have hrange : ¬(toInt number < min ∨ max < toInt number) := by omega
  simp only [Access.readInteger, Access.parameter, hargument, hparse]
  exact if_neg hrange

end Norma
