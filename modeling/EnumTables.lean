import EnumTables.Enumeration.Registry
import EnumTables.Main
import EnumTables.Number.Shortest
import EnumTables.Proofs.Agreement
import EnumTables.Proofs.AllOrNothing
import EnumTables.Proofs.Casts
import EnumTables.Proofs.Cycles
import EnumTables.Proofs.Exactness
import EnumTables.Proofs.FirstConstants
import EnumTables.Proofs.Guard
import EnumTables.Proofs.MemoLaws
import EnumTables.Proofs.Memoisation
import EnumTables.Proofs.Parentheses
import EnumTables.Proofs.Redeclaration
import EnumTables.Proofs.RegistryRuns
import EnumTables.Proofs.Renaming
import EnumTables.Proofs.RuntimeAgreement
import EnumTables.Proofs.Siblings
import EnumTables.Proofs.WrittenLiterals
