import AsyncBody.Main
import AsyncBody.Proofs.Hygiene
import AsyncBody.Proofs.LoweredMeaning
import AsyncBody.Text.Blank
import AsyncBody.Tree.Reading
import AsyncBody.Proofs.ItemOrder
import AsyncBody.Proofs.ExportTable
import AsyncBody.Proofs.ReturnedNames
import AsyncBody.Proofs.UnseenScopes
import AsyncBody.Proofs.Collision
import AsyncBody.Proofs.ShadowedUses
import AsyncBody.Proofs.LoweredStatements
import AsyncBody.Proofs.SecondLowering
import AsyncBody.Proofs.Renaming
import AsyncBody.Proofs.HookChoice
import AsyncBody.Proofs.WrappedUses
import AsyncBody.Proofs.Retouching
import AsyncBody.Proofs.SuppliedNames
import AsyncBody.Proofs.RoutedFirst
import AsyncBody.Proofs.WithoutTypes
import AsyncBody.Proofs.LongerForms
import AsyncBody.Proofs.NameSearch
import AsyncBody.Proofs.WrappedText
import AsyncBody.Proofs.WrittenFiles
import AsyncBody.Proofs.HoistedVariables
