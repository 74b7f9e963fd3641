import Norma.Text

namespace Norma

inductive Key where
  | abor | routSyst | inpCoup | inpGain | inpFiltFreq | inpFiltStat | inpShun
  | voltRangList | voltRangAuto | voltRang | voltScal | currRangList | currRangAuto
  | currRang | currScal | aper | sweFreq | funcOffAll | funcConc | funcCoun | funcAll
  | func | dataStat | data | sweOffsPoints | sweOffsTime | swePoints | sweTime | sweCoun
  | sweSfac | sweFunc | sweStat | syncStat | syncLevUnit | syncTim | syncLev | syncSlop
  | syncFiltFreq | syncFiltStat | syncSour | initCont | initSeq | initName | init
  | trigStarSour | trigStarTime | trigStarLev | trigStarSlop | trigStopSour | trigStopTime
  | trigStopLev | trigStopSlop | calcTranFreqMode | calcTranFreqFunc | calcTranFreqStar
  | calcTranFreqStop | calcTranFreqCycl | calcTranFreqGro | calcTranFreqStat | calcDataPre
  | calcDataThd | calcData | calcIntCleAuto | calcIntCle | calcIntFunc | calcIntStarSour
  | calcIntStarTime | calcIntStar | calcIntStopSour | calcIntStopTime | calcIntStopTint
  | calcIntStop | calcIntStat | calcHarmOrd | calcPowCorr | calcPowEffRef | tracPre
  | tracStat | tracFree | tracCatLen | tracDelAll | trac | formStat | formBord | formTran
  | form | dispUserFunc | dispStat | outpStat | systCommGpibAddr | systCommSerBaud
  | systDate | systTime | systErrAll | systErr | systKloc | systLang | systVers
  | statOperCond | statOperEnab | statOperPtr | statOperNtr | statOperEven
  | statQuesVoltCond | statQuesVoltEnab | statQuesVoltPtr | statQuesVoltNtr
  | statQuesVoltEven | statQuesCurrCond | statQuesCurrEnab | statQuesCurrPtr
  | statQuesCurrNtr | statQuesCurrEven | statQuesCond | statQuesEnab | statQuesPtr
  | statQuesNtr | statQuesEven | timResAuto | timResTime | timRes
  deriving DecidableEq, Repr

def Key.text : Key → Text
  | .abor => "ABOR"
  | .routSyst => "ROUT:SYST"
  | .inpCoup => "INP#:COUP"
  | .inpGain => "INP#:GAIN"
  | .inpFiltFreq => "INP#:FILT:FREQ"
  | .inpFiltStat => "INP#:FILT:STAT"
  | .inpShun => "INP#:SHUN"
  | .voltRangList => "VOLT#:RANG:LIST"
  | .voltRangAuto => "VOLT#:RANG:AUTO"
  | .voltRang => "VOLT#:RANG"
  | .voltScal => "VOLT#:SCAL"
  | .currRangList => "CURR#:RANG:LIST"
  | .currRangAuto => "CURR#:RANG:AUTO"
  | .currRang => "CURR#:RANG"
  | .currScal => "CURR#:SCAL"
  | .aper => "APER"
  | .sweFreq => "SWE:FREQ"
  | .funcOffAll => "FUNC:OFF:ALL"
  | .funcConc => "FUNC:CONC"
  | .funcCoun => "FUNC:COUN"
  | .funcAll => "FUNC:ALL"
  | .func => "FUNC"
  | .dataStat => "DATA:STAT"
  | .data => "DATA"
  | .sweOffsPoints => "SWE#:OFFS:POINTS"
  | .sweOffsTime => "SWE#:OFFS:TIME"
  | .swePoints => "SWE#:POINTS"
  | .sweTime => "SWE#:TIME"
  | .sweCoun => "SWE#:COUN"
  | .sweSfac => "SWE#:SFAC"
  | .sweFunc => "SWE#:FUNC"
  | .sweStat => "SWE#:STAT"
  | .syncStat => "SYNC:STAT"
  | .syncLevUnit => "SYNC:LEV:UNIT"
  | .syncTim => "SYNC:TIM"
  | .syncLev => "SYNC:LEV"
  | .syncSlop => "SYNC:SLOP"
  | .syncFiltFreq => "SYNC:FILT:FREQ"
  | .syncFiltStat => "SYNC:FILT:STAT"
  | .syncSour => "SYNC:SOUR"
  | .initCont => "INIT:CONT"
  | .initSeq => "INIT:SEQ#"
  | .initName => "INIT:NAME"
  | .init => "INIT"
  | .trigStarSour => "TRIG:STAR:SOUR"
  | .trigStarTime => "TRIG:STAR:TIME"
  | .trigStarLev => "TRIG:STAR:LEV"
  | .trigStarSlop => "TRIG:STAR:SLOP"
  | .trigStopSour => "TRIG:STOP:SOUR"
  | .trigStopTime => "TRIG:STOP:TIME"
  | .trigStopLev => "TRIG:STOP:LEV"
  | .trigStopSlop => "TRIG:STOP:SLOP"
  | .calcTranFreqMode => "CALC:TRAN:FREQ:MODE"
  | .calcTranFreqFunc => "CALC:TRAN:FREQ:FUNC"
  | .calcTranFreqStar => "CALC:TRAN:FREQ:STAR"
  | .calcTranFreqStop => "CALC:TRAN:FREQ:STOP"
  | .calcTranFreqCycl => "CALC:TRAN:FREQ:CYCL"
  | .calcTranFreqGro => "CALC:TRAN:FREQ:GRO"
  | .calcTranFreqStat => "CALC:TRAN:FREQ:STAT"
  | .calcDataPre => "CALC:DATA:PRE"
  | .calcDataThd => "CALC:DATA:THD"
  | .calcData => "CALC:DATA"
  | .calcIntCleAuto => "CALC:INT:CLE:AUTO"
  | .calcIntCle => "CALC:INT:CLE"
  | .calcIntFunc => "CALC:INT:FUNC"
  | .calcIntStarSour => "CALC:INT:STAR:SOUR"
  | .calcIntStarTime => "CALC:INT:STAR:TIME"
  | .calcIntStar => "CALC:INT:STAR"
  | .calcIntStopSour => "CALC:INT:STOP:SOUR"
  | .calcIntStopTime => "CALC:INT:STOP:TIME"
  | .calcIntStopTint => "CALC:INT:STOP:TINT"
  | .calcIntStop => "CALC:INT:STOP"
  | .calcIntStat => "CALC:INT:STAT"
  | .calcHarmOrd => "CALC:HARM:ORD"
  | .calcPowCorr => "CALC:POW:CORR"
  | .calcPowEffRef => "CALC:POW#:EFF:REF"
  | .tracPre => "TRAC:PRE"
  | .tracStat => "TRAC:STAT"
  | .tracFree => "TRAC:FREE"
  | .tracCatLen => "TRAC:CAT:LEN"
  | .tracDelAll => "TRAC:DEL:ALL"
  | .trac => "TRAC"
  | .formStat => "FORM:STAT"
  | .formBord => "FORM:BORD"
  | .formTran => "FORM:TRAN"
  | .form => "FORM"
  | .dispUserFunc => "DISP:USER:FUNC"
  | .dispStat => "DISP:STAT"
  | .outpStat => "OUTP#:STAT"
  | .systCommGpibAddr => "SYST:COMM:GPIB:ADDR"
  | .systCommSerBaud => "SYST:COMM:SER:BAUD"
  | .systDate => "SYST:DATE"
  | .systTime => "SYST:TIME"
  | .systErrAll => "SYST:ERR:ALL"
  | .systErr => "SYST:ERR"
  | .systKloc => "SYST:KLOC"
  | .systLang => "SYST:LANG"
  | .systVers => "SYST:VERS"
  | .statOperCond => "STAT:OPER:COND"
  | .statOperEnab => "STAT:OPER:ENAB"
  | .statOperPtr => "STAT:OPER:PTR"
  | .statOperNtr => "STAT:OPER:NTR"
  | .statOperEven => "STAT:OPER:EVEN"
  | .statQuesVoltCond => "STAT:QUES:VOLT:COND"
  | .statQuesVoltEnab => "STAT:QUES:VOLT:ENAB"
  | .statQuesVoltPtr => "STAT:QUES:VOLT:PTR"
  | .statQuesVoltNtr => "STAT:QUES:VOLT:NTR"
  | .statQuesVoltEven => "STAT:QUES:VOLT:EVEN"
  | .statQuesCurrCond => "STAT:QUES:CURR:COND"
  | .statQuesCurrEnab => "STAT:QUES:CURR:ENAB"
  | .statQuesCurrPtr => "STAT:QUES:CURR:PTR"
  | .statQuesCurrNtr => "STAT:QUES:CURR:NTR"
  | .statQuesCurrEven => "STAT:QUES:CURR:EVEN"
  | .statQuesCond => "STAT:QUES:COND"
  | .statQuesEnab => "STAT:QUES:ENAB"
  | .statQuesPtr => "STAT:QUES:PTR"
  | .statQuesNtr => "STAT:QUES:NTR"
  | .statQuesEven => "STAT:QUES:EVEN"
  | .timResAuto => "TIM:RES:AUTO"
  | .timResTime => "TIM:RES:TIME"
  | .timRes => "TIM:RES"

structure PatternNode where
  mnemonics : List Text
  isOptional : Bool
  suffixed : Bool
  deriving DecidableEq, Repr

def compileNode (raw : Text) : PatternNode :=
  let node := trim raw
  let bracketed := node.head? = some '[' ∧ node.getLast? = some ']'
  let alternatives := splitUnquoted (if bracketed then node.tail.dropLast else node) '|'
  { mnemonics := alternatives.map fun alternative =>
      if alternative.getLast? = some '#' then alternative.dropLast else alternative
    isOptional := bracketed
    suffixed := alternatives.any fun alternative => alternative.getLast? = some '#' }

def compilePattern (pattern : Text) : List PatternNode :=
  (splitUnquoted pattern ':').map compileNode

def nodeAccepts (node : PatternNode) (token : Token) : Bool :=
  if token.hasSuffix && !node.suffixed then false
  else node.mnemonics.any (mnemonicMatches token.text)

-- An optional node is tried as present first, so the longest reading wins.
def matchPattern : List PatternNode → List Token → List Int → Option (List Int)
  | [], tokens, suffixes => if tokens = [] then some suffixes else none
  | node :: pattern, [], suffixes =>
      if node.isOptional then matchPattern pattern [] suffixes else none
  | node :: pattern, token :: tokens, suffixes =>
      let present :=
        if nodeAccepts node token then
          matchPattern pattern tokens
            (if node.suffixed then suffixes ++ [token.suffix] else suffixes)
        else none
      match present with
      | some found => some found
      | none =>
          if node.isOptional then matchPattern pattern (token :: tokens) suffixes else none

structure CommandSpec where
  key : Key
  pattern : Text

def commandSpecs : List CommandSpec := [
  ⟨.abor, "ABORt"⟩,
  ⟨.routSyst, "ROUTe:SYSTem"⟩,
  ⟨.inpCoup, "INPut#:COUPling"⟩,
  ⟨.inpGain, "INPut#:GAIN"⟩,
  ⟨.inpFiltFreq, "INPut#:FILTer:[LPASs]:FREQuency"⟩,
  ⟨.inpFiltStat, "INPut#:FILTer:[STATe]"⟩,
  ⟨.inpShun, "INPut#:SHUNt"⟩,
  ⟨.voltRangList, "[SENSe]:VOLTage#:[AC|DC]:RANGe:[UPPer]:LIST"⟩,
  ⟨.voltRangAuto, "[SENSe]:VOLTage#:[AC|DC]:RANGe:[UPPer]:AUTO"⟩,
  ⟨.voltRang, "[SENSe]:VOLTage#:[AC|DC]:RANGe:[UPPer]"⟩,
  ⟨.voltScal, "[SENSe]:VOLTage#:[AC|DC]:SCALe"⟩,
  ⟨.currRangList, "[SENSe]:CURRent#:[AC|DC]:RANGe:[UPPer]:LIST"⟩,
  ⟨.currRangAuto, "[SENSe]:CURRent#:[AC|DC]:RANGe:[UPPer]:AUTO"⟩,
  ⟨.currRang, "[SENSe]:CURRent#:[AC|DC]:RANGe:[UPPer]"⟩,
  ⟨.currScal, "[SENSe]:CURRent#:[AC|DC]:SCALe"⟩,
  ⟨.aper, "[SENSe]:[VOLTage#|CURRent#|POWer#]:[AC|DC]:APERture"⟩,
  ⟨.sweFreq, "[SENSe]:SWEep:FREQuency"⟩,
  ⟨.funcOffAll, "[SENSe]:FUNCtion:OFF:ALL"⟩,
  ⟨.funcConc, "[SENSe]:FUNCtion:CONCurrent"⟩,
  ⟨.funcCoun, "[SENSe]:FUNCtion:[ON]:COUNt"⟩,
  ⟨.funcAll, "[SENSe]:FUNCtion:[ON]:ALL"⟩,
  ⟨.func, "[SENSe]:FUNCtion:[ON]"⟩,
  ⟨.dataStat, "[SENSe]:DATA:STATus"⟩,
  ⟨.data, "[SENSe]:DATA"⟩,
  ⟨.sweOffsPoints, "[SENSe]:SWEep#:OFFSet:POINTS"⟩,
  ⟨.sweOffsTime, "[SENSe]:SWEep#:OFFSet:TIME"⟩,
  ⟨.swePoints, "[SENSe]:SWEep#:POINTS"⟩,
  ⟨.sweTime, "[SENSe]:SWEep#:TIME"⟩,
  ⟨.sweCoun, "[SENSe]:SWEep#:COUNt"⟩,
  ⟨.sweSfac, "[SENSe]:SWEep#:SFACtor"⟩,
  ⟨.sweFunc, "[SENSe]:SWEep#:FUNCtion"⟩,
  ⟨.sweStat, "[SENSe]:SWEep#:[STATe]"⟩,
  ⟨.syncStat, "SYNC:STATe"⟩,
  ⟨.syncLevUnit, "SYNC:LEVel:UNIT"⟩,
  ⟨.syncTim, "SYNC:TIMeout"⟩,
  ⟨.syncLev, "SYNC:[SOURce|VOLTage#|CURRent#]:LEVel"⟩,
  ⟨.syncSlop, "SYNC:[SOURce|VOLTage#|CURRent#]:SLOPe"⟩,
  ⟨.syncFiltFreq, "SYNC:[SOURce|VOLTage#|CURRent#]:FILTer:[LPASs]:FREQuency"⟩,
  ⟨.syncFiltStat, "SYNC:[SOURce|VOLTage#|CURRent#]:FILTer:[LPASs]:[STATe]"⟩,
  ⟨.syncSour, "SYNC:[SOURce]"⟩,
  ⟨.initCont, "INITiate:CONTinuous"⟩,
  ⟨.initSeq, "INITiate:[IMMediate]:SEQuence#"⟩,
  ⟨.initName, "INITiate:[IMMediate]:NAME"⟩,
  ⟨.init, "INITiate:[IMMediate]"⟩,
  ⟨.trigStarSour, "TRIGger:STARt:SOURce"⟩,
  ⟨.trigStarTime, "TRIGger:STARt:TIME"⟩,
  ⟨.trigStarLev, "TRIGger:STARt:LEVel"⟩,
  ⟨.trigStarSlop, "TRIGger:STARt:SLOPe"⟩,
  ⟨.trigStopSour, "TRIGger:STOP:SOURce"⟩,
  ⟨.trigStopTime, "TRIGger:STOP:TIME"⟩,
  ⟨.trigStopLev, "TRIGger:STOP:LEVel"⟩,
  ⟨.trigStopSlop, "TRIGger:STOP:SLOPe"⟩,
  ⟨.calcTranFreqMode, "CALCulate:TRANsform:FREQuency:MODE"⟩,
  ⟨.calcTranFreqFunc, "CALCulate:TRANsform:FREQuency:FUNCtion"⟩,
  ⟨.calcTranFreqStar, "CALCulate:TRANsform:FREQuency:STARt"⟩,
  ⟨.calcTranFreqStop, "CALCulate:TRANsform:FREQuency:STOP"⟩,
  ⟨.calcTranFreqCycl, "CALCulate:TRANsform:FREQuency:CYCLes"⟩,
  ⟨.calcTranFreqGro, "CALCulate:TRANsform:FREQuency:GROuping"⟩,
  ⟨.calcTranFreqStat, "CALCulate:TRANsform:FREQuency:[STATe]"⟩,
  ⟨.calcDataPre, "CALCulate:DATA:PREamble"⟩,
  ⟨.calcDataThd, "CALCulate:DATA:THD"⟩,
  ⟨.calcData, "CALCulate:DATA"⟩,
  ⟨.calcIntCleAuto, "CALCulate:INTegral:CLEar:AUTO"⟩,
  ⟨.calcIntCle, "CALCulate:INTegral:CLEar:[IMMediate]"⟩,
  ⟨.calcIntFunc, "CALCulate:INTegral:FUNCtion"⟩,
  ⟨.calcIntStarSour, "CALCulate:INTegral:STARt:SOURce"⟩,
  ⟨.calcIntStarTime, "CALCulate:INTegral:STARt:TIME"⟩,
  ⟨.calcIntStar, "CALCulate:INTegral:STARt:[IMMediate]"⟩,
  ⟨.calcIntStopSour, "CALCulate:INTegral:STOP:SOURce"⟩,
  ⟨.calcIntStopTime, "CALCulate:INTegral:STOP:TIME"⟩,
  ⟨.calcIntStopTint, "CALCulate:INTegral:STOP:TINTerval"⟩,
  ⟨.calcIntStop, "CALCulate:INTegral:STOP:[IMMediate]"⟩,
  ⟨.calcIntStat, "CALCulate:INTegral:[STATe]"⟩,
  ⟨.calcHarmOrd, "CALCulate:HARMonic:ORDer"⟩,
  ⟨.calcPowCorr, "CALCulate:POWer:CORRected"⟩,
  ⟨.calcPowEffRef, "CALCulate:POWer#:EFFiciency:REFerence"⟩,
  ⟨.tracPre, "TRACe:[DATA]:PREamble"⟩,
  ⟨.tracStat, "TRACe:[DATA]:STATus"⟩,
  ⟨.tracFree, "TRACe:FREE"⟩,
  ⟨.tracCatLen, "TRACe:CATalog:LENgth"⟩,
  ⟨.tracDelAll, "TRACe:DELete:ALL"⟩,
  ⟨.trac, "TRACe:[DATA]"⟩,
  ⟨.formStat, "FORMat:[DATA]:STATus"⟩,
  ⟨.formBord, "FORMat:BORDer"⟩,
  ⟨.formTran, "FORMat:TRANspose"⟩,
  ⟨.form, "FORMat:[DATA]"⟩,
  ⟨.dispUserFunc, "DISPlay:USER:FUNCtion"⟩,
  ⟨.dispStat, "DISPlay:[WINDow]:[STATe]"⟩,
  ⟨.outpStat, "OUTPut#:[STATe]"⟩,
  ⟨.systCommGpibAddr, "SYSTem:COMMunicate:GPIB:[SELF]:ADDRess"⟩,
  ⟨.systCommSerBaud, "SYSTem:COMMunicate:SERial:BAUD"⟩,
  ⟨.systDate, "SYSTem:DATE"⟩,
  ⟨.systTime, "SYSTem:TIME"⟩,
  ⟨.systErrAll, "SYSTem:ERRor:ALL"⟩,
  ⟨.systErr, "SYSTem:ERRor:[NEXT]"⟩,
  ⟨.systKloc, "SYSTem:KLOCk"⟩,
  ⟨.systLang, "SYSTem:LANGuage"⟩,
  ⟨.systVers, "SYSTem:VERSion"⟩,
  ⟨.statOperCond, "STATus:OPERation:CONDition"⟩,
  ⟨.statOperEnab, "STATus:OPERation:ENABle"⟩,
  ⟨.statOperPtr, "STATus:OPERation:PTRansition"⟩,
  ⟨.statOperNtr, "STATus:OPERation:NTRansition"⟩,
  ⟨.statOperEven, "STATus:OPERation:[EVENt]"⟩,
  ⟨.statQuesVoltCond, "STATus:QUEStionable:VOLTage:CONDition"⟩,
  ⟨.statQuesVoltEnab, "STATus:QUEStionable:VOLTage:ENABle"⟩,
  ⟨.statQuesVoltPtr, "STATus:QUEStionable:VOLTage:PTRansition"⟩,
  ⟨.statQuesVoltNtr, "STATus:QUEStionable:VOLTage:NTRansition"⟩,
  ⟨.statQuesVoltEven, "STATus:QUEStionable:VOLTage:[EVENt]"⟩,
  ⟨.statQuesCurrCond, "STATus:QUEStionable:CURRent:CONDition"⟩,
  ⟨.statQuesCurrEnab, "STATus:QUEStionable:CURRent:ENABle"⟩,
  ⟨.statQuesCurrPtr, "STATus:QUEStionable:CURRent:PTRansition"⟩,
  ⟨.statQuesCurrNtr, "STATus:QUEStionable:CURRent:NTRansition"⟩,
  ⟨.statQuesCurrEven, "STATus:QUEStionable:CURRent:[EVENt]"⟩,
  ⟨.statQuesCond, "STATus:QUEStionable:CONDition"⟩,
  ⟨.statQuesEnab, "STATus:QUEStionable:ENABle"⟩,
  ⟨.statQuesPtr, "STATus:QUEStionable:PTRansition"⟩,
  ⟨.statQuesNtr, "STATus:QUEStionable:NTRansition"⟩,
  ⟨.statQuesEven, "STATus:QUEStionable:[EVENt]"⟩,
  ⟨.timResAuto, "TIMer:RESet:AUTO"⟩,
  ⟨.timResTime, "TIMer:RESet:TIME"⟩,
  ⟨.timRes, "TIMer:RESet"⟩]

def compiledSpecs : List (Key × List PatternNode) :=
  commandSpecs.map fun spec => (spec.key, compilePattern spec.pattern)

def findCommand (tokens : List Token) : Option (Key × List Int) :=
  compiledSpecs.findSome? fun (key, pattern) =>
    (matchPattern pattern tokens []).map fun suffixes => (key, suffixes)

end Norma
