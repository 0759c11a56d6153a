import Proximity.Address.Geocoded
import Proximity.Address.Parts
import Proximity.Address.Record
import Proximity.Address.Timestamp
import Proximity.Decimal.Basic
import Proximity.Decimal.Fixed
import Proximity.Decimal.Read
import Proximity.Decimal.Shortest
import Proximity.Decimal.Value
import Proximity.Digest.Sha256
import Proximity.Error
import Proximity.Field.Layout
import Proximity.Field.Subfields
import Proximity.Geo.Coordinates
import Proximity.Geo.Units
import Proximity.Geocode.Cache
import Proximity.Geocode.Match
import Proximity.Geocode.Geocoder
import Proximity.Geocode.Query
import Proximity.Geocode.Recency
import Proximity.Geocode.Session
import Proximity.Geocode.SharedCache
import Proximity.Json.Alike
import Proximity.Json.Basic
import Proximity.Json.Parser
import Proximity.Json.Printer
import Proximity.Json.Record
import Proximity.Keyed
import Proximity.LogField
import Proximity.Options.Basic
import Proximity.Options.SubfieldFilter
import Proximity.Options.Target
import Proximity.Proofs.Account
import Proximity.Proofs.BlankRegions
import Proximity.Proofs.BoundValues
import Proximity.Proofs.CanonicalKeys
import Proximity.Proofs.CanonicalText
import Proximity.Proofs.DecimalText
import Proximity.Proofs.Dialects
import Proximity.Proofs.Finiteness
import Proximity.Proofs.GreatCircle
import Proximity.Proofs.InsertionOrder
import Proximity.Proofs.JsonKeys
import Proximity.Proofs.JsonText
import Proximity.Proofs.Lexing
import Proximity.Proofs.Lookups
import Proximity.Proofs.Misconfiguration
import Proximity.Proofs.MissingCoordinates
import Proximity.Proofs.Narrowing
import Proximity.Proofs.OptionMaps
import Proximity.Proofs.Placeholders
import Proximity.Proofs.QueryReading
import Proximity.Proofs.QueryTokens
import Proximity.Proofs.QuotedNames
import Proximity.Proofs.ReadMeaning
import Proximity.Proofs.Reading
import Proximity.Proofs.Recency
import Proximity.Proofs.RecordReading
import Proximity.Proofs.Rendering
import Proximity.Proofs.Resolved
import Proximity.Proofs.Restructuring
import Proximity.Proofs.Scope
import Proximity.Proofs.SearchPlan
import Proximity.Proofs.SearchText
import Proximity.Proofs.Settings
import Proximity.Proofs.Sharing
import Proximity.Proofs.StoredRecords
import Proximity.Proofs.SubfieldConditions
import Proximity.Proofs.TimestampText
import Proximity.Proofs.Transparency
import Proximity.Proofs.Writing
import Proximity.Proofs.WrittenTokens
import Proximity.Search.Compile
import Proximity.Search.Config
import Proximity.Search.Narrowing
import Proximity.Search.Resolution
import Proximity.Search.Series
import Proximity.Sql.AddressTable
import Proximity.Sql.AliasFilter
import Proximity.Sql.Dialect
import Proximity.Sql.Distance
import Proximity.Sql.ElementQuery
import Proximity.Sql.Expr
import Proximity.Sql.Fragment
import Proximity.Sql.Leaves
import Proximity.Sql.Marks
import Proximity.Sql.Meaning
import Proximity.Sql.Names
import Proximity.Sql.Parts
import Proximity.Sql.QueryReader
import Proximity.Sql.Quotes
import Proximity.Sql.Reader
import Proximity.Sql.SubfieldCondition
import Proximity.Sql.Substitution
import Proximity.Sql.Token
import Proximity.Sql.Writer
import Proximity.Text.Blank
import Proximity.Text.CaseTable
import Proximity.Text.Lowercase
import Proximity.Text.Quoted
