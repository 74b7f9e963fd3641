import Norma.Driver
import Norma.Keywords
import Norma.Lib.Cut
import Norma.Lib.CNumber
import Norma.Lib.Lens
import Norma.Lib.Framing
import Norma.Text
import Norma.Pattern
import Norma.State
import Norma.Setting
import Norma.Measurement
import Norma.Status
import Norma.Readout
import Norma.Access
import Norma.Handlers
import Norma.Calculate
import Norma.Line
import Norma.Effect
import Norma.Run
import Norma.Compound
import Norma.SharedPath
import Norma.TcpTransport
import Norma.Client
import Norma.Link
import Norma.Reach
import Norma.ErrorQueue
import Norma.FunctionList
import Norma.TextCall
import Norma.Prepare
import Norma.Measured
import Norma.DataStatus
import Norma.Upper
import Norma.Framing
import Norma.Manual
import Norma.LateResponse
import Norma.Concurrent
import Norma.Lib.OptionalNodes
import Norma.Table
import Norma.Grammar
import Norma.OneLine
import Norma.Dispatch
import Norma.Lib.EdgeLatch
import Norma.EventLatch
import Norma.PlainTexts
import Norma.Lib.Service
import Norma.SocketLink
import Norma.LinkAgreement
import Norma.Lib.Bits
import Norma.Summary
import Norma.ResetFrame
import Norma.ReadOnly
import Norma.Lib.FloatOrder
import Norma.Limits
import Norma.ErrorFifo
import Norma.ErrorClass
import Norma.ResponseFields
import Norma.Lib.FloatDivision
import Norma.TracePoints
import Norma.Lib.FloatInteger
import Norma.DataQuery
import Norma.PreambleData
import Norma.BinaryFormat
import Norma.Capi
import Norma.CapiErrors
import Norma.OneFunction
import Norma.OneRecording
import Norma.FormatCoupling
import Norma.Efficiency
import Norma.Exact
import Norma.Flagged
import Norma.Interop
import Norma.OneExchange
import Norma.Interlocks
import Norma.IntegerArgument
import Norma.Lib.Progression
import Norma.Windows
import Norma.AggregatePower
import Norma.RangeAgreement
import Norma.Lib.Matrix
import Norma.RecordingWindow
import Norma.Paging
import Norma.Addressing
import Norma.OneOperation
import Norma.Shutdown
import Norma.MeasurementsView
import Norma.EfficiencyReference
import Norma.Lib.FloatNearest
import Norma.NumericResponse
import Norma.ListArgument
import Norma.PreamblePositions
import Norma.Surplus
import Norma.Lib.FloatDecimal
import Norma.Lib.DecimalPrint
import Norma.AsciiValue
import Norma.Lib.DecimalGeneral
import Norma.ApertureText
import Norma.LearnString
import Norma.LetterCount
import Norma.DriverRegister
import Norma.Lib.NineDigits
import Norma.Parameter
import Norma.Lib.Cells
import Norma.Panel
import Norma.RegisterAddress
import Norma.RegisterServe
import Norma.RegisterLink
import Norma.PanelRun
import Norma.PanelProperties
import Norma.ConfigurationOrder
import Norma.PanelSocket
import Norma.ResponseDiscipline
