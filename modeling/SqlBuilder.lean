import SqlBuilder.Declaration.Derive
import SqlBuilder.Log
import SqlBuilder.Program
import SqlBuilder.Value.Dynamic
import SqlBuilder.Proofs.ErrorOrder
import SqlBuilder.Proofs.QuotedSpelling
import SqlBuilder.Proofs.NumberText
import SqlBuilder.Proofs.ExprTokens
import SqlBuilder.Proofs.InjectionSafety
import SqlBuilder.Proofs.ConditionTruth
import SqlBuilder.Proofs.Parser
import SqlBuilder.Proofs.Chain
import SqlBuilder.Proofs.JoinedText
import SqlBuilder.Proofs.Flattening
import SqlBuilder.Proofs.ReadBack
import SqlBuilder.Proofs.RoundTrip
import SqlBuilder.Proofs.ClauseLog
import SqlBuilder.Proofs.LiteralReader
import SqlBuilder.Proofs.StringSpelling
import SqlBuilder.Proofs.BytesSpelling
import SqlBuilder.Proofs.PathSpelling
import SqlBuilder.Proofs.ScalarText
import SqlBuilder.Proofs.Members
import SqlBuilder.Proofs.ByteOrder
import SqlBuilder.Proofs.KeyedRows
import SqlBuilder.Proofs.ObjectColumns
import SqlBuilder.Proofs.FirstFailure
import SqlBuilder.Proofs.InsertRows
import SqlBuilder.Proofs.Representation
import SqlBuilder.Proofs.PositionalRows
import SqlBuilder.Proofs.RecordColumns
import SqlBuilder.Proofs.DayNumber
import SqlBuilder.Proofs.IndexPath
import SqlBuilder.Proofs.InstantText
import SqlBuilder.Proofs.WordAlone
import SqlBuilder.Proofs.ReadingWords
import SqlBuilder.Proofs.OperandWhole
import SqlBuilder.Proofs.AttributeGrammar
import SqlBuilder.Proofs.ArrangedCode
import SqlBuilder.Proofs.PlainTypes
import SqlBuilder.Proofs.DerivedRecord
import SqlBuilder.Proofs.DecimalText
import SqlBuilder.Proofs.WallClock
import SqlBuilder.Proofs.ScientificText
import SqlBuilder.Proofs.FloatLadder
import SqlBuilder.Proofs.NearestFloat
import SqlBuilder.Proofs.WholeCharacters
import SqlBuilder.Proofs.Renaming
import SqlBuilder.Proofs.ParameterTokens
