import CryptoSuite.Bytes.Basic
import CryptoSuite.Bytes.BigEndian
import CryptoSuite.Bytes.Hex
import CryptoSuite.Capability
import CryptoSuite.Curve.Arithmetic
import CryptoSuite.Curve.Basic
import CryptoSuite.Curve.Engine
import CryptoSuite.Curve.KnownMultiple
import CryptoSuite.Curve.Named
import CryptoSuite.Curve.Point
import CryptoSuite.Curve.Sec
import CryptoSuite.Error.Basic
import CryptoSuite.Error.Primitive
import CryptoSuite.Hash.Basic
import CryptoSuite.Hash.Sha2
import CryptoSuite.Hash.Sha2Compression
import CryptoSuite.Integer.Residue
import CryptoSuite.Mac.Hmac
import CryptoSuite.Mac.KnownAnswer
import CryptoSuite.Number.Basic
import CryptoSuite.Number.Integer
import CryptoSuite.Parameters
import CryptoSuite.Registry.Basic
import CryptoSuite.Registry.Catalog
import CryptoSuite.Registry.EntryTable
import CryptoSuite.Registry.Plugin
import CryptoSuite.Registry.Shipped
import CryptoSuite.Text.Listing
import CryptoSuite.Proofs.Curve.ChordTangent
import CryptoSuite.Proofs.Integer.Inverse
import CryptoSuite.Proofs.Number.Residue
import CryptoSuite.Proofs.Curve.PrimeCurve
import CryptoSuite.Proofs.Curve.Addition
import CryptoSuite.Proofs.Curve.Group
import CryptoSuite.Proofs.Curve.ScalarMultiple
import CryptoSuite.Proofs.Number.Numeral
import CryptoSuite.Proofs.Curve.Equation
import CryptoSuite.Proofs.Curve.Encoding
import CryptoSuite.Proofs.Curve.ScaledPoint
import CryptoSuite.Proofs.Curve.Ladder
import CryptoSuite.Proofs.Integer.Primality
import CryptoSuite.Proofs.Curve.NamedOrder
import CryptoSuite.Proofs.Hash.Accumulator
import CryptoSuite.Proofs.Hash.OneShot
import CryptoSuite.Proofs.Mac.Runs
import CryptoSuite.Proofs.Registry.Load
import CryptoSuite.Proofs.Registry.Blocks
import CryptoSuite.Proofs.Registry.History
import CryptoSuite.Proofs.Registry.Lookups
import CryptoSuite.Proofs.Registry.EntryIds
import CryptoSuite.Proofs.Curve.CanonicalEncoding
import CryptoSuite.Proofs.Curve.NamedValues
import CryptoSuite.Proofs.Curve.Setters
import CryptoSuite.Proofs.Curve.History
import CryptoSuite.Proofs.Number.Implementations
import CryptoSuite.Proofs.Curve.Naming
import CryptoSuite.Proofs.Hash.Contexts
import CryptoSuite.Proofs.Curve.Closure
import CryptoSuite.Proofs.Curve.Membership
import CryptoSuite.Proofs.Curve.SameCurve
import CryptoSuite.Proofs.Curve.Unreduced
import CryptoSuite.Proofs.Curve.HiddenCoordinates
import CryptoSuite.Proofs.Curve.BaseWrites
import CryptoSuite.Proofs.Curve.Families
import CryptoSuite.Proofs.Curve.Integral
import CryptoSuite.Proofs.Curve.ParameterStore
import CryptoSuite.Proofs.Curve.Session
import CryptoSuite.Proofs.Curve.Order
import CryptoSuite.Proofs.Mac.PadAccess
import CryptoSuite.Proofs.Registry.FirstFault
import CryptoSuite.Proofs.Registry.Mounts
import CryptoSuite.Proofs.Registry.SearchPath
import CryptoSuite.Proofs.Registry.UnitNames
import CryptoSuite.Proofs.Registry.SelfTests
import CryptoSuite.Proofs.Number.Magnitude
import CryptoSuite.Proofs.Number.Modular
import CryptoSuite.Proofs.Curve.AnnouncedSize
