/-!
# Names of musical, mathematical and other notations

The characters from U+17000 to U+1EFFF. Each line gives the code point of its first name; the names
of the characters after it follow, each behind a small letter that tells how many words it shares
with the name before it.
-/

namespace RecordAudit.Text.CharacterName

def notations : List (Nat × String) :=
  [(0x18800, "aTANGUT COMPONENT-001c002c003c004c005c006c007c008c009c010c011c012c013c014c015"),
   (0x1880F, "c016c017c018c019c020c021c022c023c024c025c026c027c028c029c030c031c032c033c034"),
   (0x18822, "c035c036c037c038c039c040c041c042c043c044c045c046c047c048c049c050c051c052c053"),
   (0x18835, "c054c055c056c057c058c059c060c061c062c063c064c065c066c067c068c069c070c071c072"),
   (0x18848, "c073c074c075c076c077c078c079c080c081c082c083c084c085c086c087c088c089c090c091"),
   (0x1885B, "c092c093c094c095c096c097c098c099c100c101c102c103c104c105c106c107c108c109c110"),
   (0x1886E, "c111c112c113c114c115c116c117c118c119c120c121c122c123c124c125c126c127c128c129"),
   (0x18881, "c130c131c132c133c134c135c136c137c138c139c140c141c142c143c144c145c146c147c148"),
   (0x18894, "c149c150c151c152c153c154c155c156c157c158c159c160c161c162c163c164c165c166c167"),
   (0x188A7, "c168c169c170c171c172c173c174c175c176c177c178c179c180c181c182c183c184c185c186"),
   (0x188BA, "c187c188c189c190c191c192c193c194c195c196c197c198c199c200c201c202c203c204c205"),
   (0x188CD, "c206c207c208c209c210c211c212c213c214c215c216c217c218c219c220c221c222c223c224"),
   (0x188E0, "c225c226c227c228c229c230c231c232c233c234c235c236c237c238c239c240c241c242c243"),
   (0x188F3, "c244c245c246c247c248c249c250c251c252c253c254c255c256c257c258c259c260c261c262"),
   (0x18906, "c263c264c265c266c267c268c269c270c271c272c273c274c275c276c277c278c279c280c281"),
   (0x18919, "c282c283c284c285c286c287c288c289c290c291c292c293c294c295c296c297c298c299c300"),
   (0x1892C, "c301c302c303c304c305c306c307c308c309c310c311c312c313c314c315c316c317c318c319"),
   (0x1893F, "c320c321c322c323c324c325c326c327c328c329c330c331c332c333c334c335c336c337c338"),
   (0x18952, "c339c340c341c342c343c344c345c346c347c348c349c350c351c352c353c354c355c356c357"),
   (0x18965, "c358c359c360c361c362c363c364c365c366c367c368c369c370c371c372c373c374c375c376"),
   (0x18978, "c377c378c379c380c381c382c383c384c385c386c387c388c389c390c391c392c393c394c395"),
   (0x1898B, "c396c397c398c399c400c401c402c403c404c405c406c407c408c409c410c411c412c413c414"),
   (0x1899E, "c415c416c417c418c419c420c421c422c423c424c425c426c427c428c429c430c431c432c433"),
   (0x189B1, "c434c435c436c437c438c439c440c441c442c443c444c445c446c447c448c449c450c451c452"),
   (0x189C4, "c453c454c455c456c457c458c459c460c461c462c463c464c465c466c467c468c469c470c471"),
   (0x189D7, "c472c473c474c475c476c477c478c479c480c481c482c483c484c485c486c487c488c489c490"),
   (0x189EA, "c491c492c493c494c495c496c497c498c499c500c501c502c503c504c505c506c507c508c509"),
   (0x189FD, "c510c511c512c513c514c515c516c517c518c519c520c521c522c523c524c525c526c527c528"),
   (0x18A10, "c529c530c531c532c533c534c535c536c537c538c539c540c541c542c543c544c545c546c547"),
   (0x18A23, "c548c549c550c551c552c553c554c555c556c557c558c559c560c561c562c563c564c565c566"),
   (0x18A36, "c567c568c569c570c571c572c573c574c575c576c577c578c579c580c581c582c583c584c585"),
   (0x18A49, "c586c587c588c589c590c591c592c593c594c595c596c597c598c599c600c601c602c603c604"),
   (0x18A5C, "c605c606c607c608c609c610c611c612c613c614c615c616c617c618c619c620c621c622c623"),
   (0x18A6F, "c624c625c626c627c628c629c630c631c632c633c634c635c636c637c638c639c640c641c642"),
   (0x18A82, "c643c644c645c646c647c648c649c650c651c652c653c654c655c656c657c658c659c660c661"),
   (0x18A95, "c662c663c664c665c666c667c668c669c670c671c672c673c674c675c676c677c678c679c680"),
   (0x18AA8, "c681c682c683c684c685c686c687c688c689c690c691c692c693c694c695c696c697c698c699"),
   (0x18ABB, "c700c701c702c703c704c705c706c707c708c709c710c711c712c713c714c715c716c717c718"),
   (0x18ACE, "c719c720c721c722c723c724c725c726c727c728c729c730c731c732c733c734c735c736c737"),
   (0x18AE1, "c738c739c740c741c742c743c744c745c746c747c748c749c750c751c752c753c754c755c756"),
   (0x18AF4, "c757c758c759c760c761c762c763c764c765c766c767c768"),
   (0x18B00, "aKHITAN SMALL SCRIPT CHARACTER-18B00e18B01e18B02e18B03e18B04e18B05e18B06e18B07"),
   (0x18B08, "e18B08e18B09e18B0Ae18B0Be18B0Ce18B0De18B0Ee18B0Fe18B10e18B11e18B12e18B13e18B14"),
   (0x18B15, "e18B15e18B16e18B17e18B18e18B19e18B1Ae18B1Be18B1Ce18B1De18B1Ee18B1Fe18B20e18B21"),
   (0x18B22, "e18B22e18B23e18B24e18B25e18B26e18B27e18B28e18B29e18B2Ae18B2Be18B2Ce18B2De18B2E"),
   (0x18B2F, "e18B2Fe18B30e18B31e18B32e18B33e18B34e18B35e18B36e18B37e18B38e18B39e18B3Ae18B3B"),
   (0x18B3C, "e18B3Ce18B3De18B3Ee18B3Fe18B40e18B41e18B42e18B43e18B44e18B45e18B46e18B47e18B48"),
   (0x18B49, "e18B49e18B4Ae18B4Be18B4Ce18B4De18B4Ee18B4Fe18B50e18B51e18B52e18B53e18B54e18B55"),
   (0x18B56, "e18B56e18B57e18B58e18B59e18B5Ae18B5Be18B5Ce18B5De18B5Ee18B5Fe18B60e18B61e18B62"),
   (0x18B63, "e18B63e18B64e18B65e18B66e18B67e18B68e18B69e18B6Ae18B6Be18B6Ce18B6De18B6Ee18B6F"),
   (0x18B70, "e18B70e18B71e18B72e18B73e18B74e18B75e18B76e18B77e18B78e18B79e18B7Ae18B7Be18B7C"),
   (0x18B7D, "e18B7De18B7Ee18B7Fe18B80e18B81e18B82e18B83e18B84e18B85e18B86e18B87e18B88e18B89"),
   (0x18B8A, "e18B8Ae18B8Be18B8Ce18B8De18B8Ee18B8Fe18B90e18B91e18B92e18B93e18B94e18B95e18B96"),
   (0x18B97, "e18B97e18B98e18B99e18B9Ae18B9Be18B9Ce18B9De18B9Ee18B9Fe18BA0e18BA1e18BA2e18BA3"),
   (0x18BA4, "e18BA4e18BA5e18BA6e18BA7e18BA8e18BA9e18BAAe18BABe18BACe18BADe18BAEe18BAFe18BB0"),
   (0x18BB1, "e18BB1e18BB2e18BB3e18BB4e18BB5e18BB6e18BB7e18BB8e18BB9e18BBAe18BBBe18BBCe18BBD"),
   (0x18BBE, "e18BBEe18BBFe18BC0e18BC1e18BC2e18BC3e18BC4e18BC5e18BC6e18BC7e18BC8e18BC9e18BCA"),
   (0x18BCB, "e18BCBe18BCCe18BCDe18BCEe18BCFe18BD0e18BD1e18BD2e18BD3e18BD4e18BD5e18BD6e18BD7"),
   (0x18BD8, "e18BD8e18BD9e18BDAe18BDBe18BDCe18BDDe18BDEe18BDFe18BE0e18BE1e18BE2e18BE3e18BE4"),
   (0x18BE5, "e18BE5e18BE6e18BE7e18BE8e18BE9e18BEAe18BEBe18BECe18BEDe18BEEe18BEFe18BF0e18BF1"),
   (0x18BF2, "e18BF2e18BF3e18BF4e18BF5e18BF6e18BF7e18BF8e18BF9e18BFAe18BFBe18BFCe18BFDe18BFE"),
   (0x18BFF, "e18BFFe18C00e18C01e18C02e18C03e18C04e18C05e18C06e18C07e18C08e18C09e18C0Ae18C0B"),
   (0x18C0C, "e18C0Ce18C0De18C0Ee18C0Fe18C10e18C11e18C12e18C13e18C14e18C15e18C16e18C17e18C18"),
   (0x18C19, "e18C19e18C1Ae18C1Be18C1Ce18C1De18C1Ee18C1Fe18C20e18C21e18C22e18C23e18C24e18C25"),
   (0x18C26, "e18C26e18C27e18C28e18C29e18C2Ae18C2Be18C2Ce18C2De18C2Ee18C2Fe18C30e18C31e18C32"),
   (0x18C33, "e18C33e18C34e18C35e18C36e18C37e18C38e18C39e18C3Ae18C3Be18C3Ce18C3De18C3Ee18C3F"),
   (0x18C40, "e18C40e18C41e18C42e18C43e18C44e18C45e18C46e18C47e18C48e18C49e18C4Ae18C4Be18C4C"),
   (0x18C4D, "e18C4De18C4Ee18C4Fe18C50e18C51e18C52e18C53e18C54e18C55e18C56e18C57e18C58e18C59"),
   (0x18C5A, "e18C5Ae18C5Be18C5Ce18C5De18C5Ee18C5Fe18C60e18C61e18C62e18C63e18C64e18C65e18C66"),
   (0x18C67, "e18C67e18C68e18C69e18C6Ae18C6Be18C6Ce18C6De18C6Ee18C6Fe18C70e18C71e18C72e18C73"),
   (0x18C74, "e18C74e18C75e18C76e18C77e18C78e18C79e18C7Ae18C7Be18C7Ce18C7De18C7Ee18C7Fe18C80"),
   (0x18C81, "e18C81e18C82e18C83e18C84e18C85e18C86e18C87e18C88e18C89e18C8Ae18C8Be18C8Ce18C8D"),
   (0x18C8E, "e18C8Ee18C8Fe18C90e18C91e18C92e18C93e18C94e18C95e18C96e18C97e18C98e18C99e18C9A"),
   (0x18C9B, "e18C9Be18C9Ce18C9De18C9Ee18C9Fe18CA0e18CA1e18CA2e18CA3e18CA4e18CA5e18CA6e18CA7"),
   (0x18CA8, "e18CA8e18CA9e18CAAe18CABe18CACe18CADe18CAEe18CAFe18CB0e18CB1e18CB2e18CB3e18CB4"),
   (0x18CB5, "e18CB5e18CB6e18CB7e18CB8e18CB9e18CBAe18CBBe18CBCe18CBDe18CBEe18CBFe18CC0e18CC1"),
   (0x18CC2, "e18CC2e18CC3e18CC4e18CC5e18CC6e18CC7e18CC8e18CC9e18CCAe18CCBe18CCCe18CCDe18CCE"),
   (0x18CCF, "e18CCFe18CD0e18CD1e18CD2e18CD3e18CD4e18CD5"),
   (0x1AFF0, "aKATAKANA LETTER MINNAN TONE-2e3e4e5"),
   (0x1AFF5, "e7e8dNASALIZED TONE-1f2f3f4f5"),
   (0x1AFFD, "f7f8"),
   (0x1B000, "cARCHAIC EaHIRAGANA LETTER ARCHAIC YEaHENTAIGANA LETTER A-1d2d3dWOcI-1d2d3d4"),
   (0x1B00A, "cU-1d2d3d4d5cE-2d3d4d5d6cO-1d2d3cKA-1d2d3d4d5d6d7d8d9d10d11dKEcKI-1d2d3d4d5d6"),
   (0x1B029, "d7d8cKU-1d2d3d4d5d6d7cKE-1d2d3d4d5d6cKO-1d2d3dKIcSA-1d2d3d4d5d6d7d8cSI-1d2d3d4"),
   (0x1B048, "d5d6cSU-1d2d3d4d5d6d7d8cSE-1d2d3d4d5cSO-1d2d3d4d5d6d7cTA-1d2d3d4cTI-1d2d3d4d5"),
   (0x1B067, "d6d7cTU-1d2d3d4dTOcTE-1d2d3d4d5d6d7d8d9cTO-1d2d3d4d5d6dRAcNA-1d2d3d4d5d6d7d8d9"),
   (0x1B087, "cNI-1d2d3d4d5d6d7dTEcNU-1d2d3cNE-1d2d3d4d5d6dKOcNO-1d2d3d4d5cHA-1d2d3d4d5d6d7"),
   (0x1B0A5, "d8d9d10d11cHI-1d2d3d4d5d6d7cHU-1d2d3cHE-1d2d3d4d5d6d7cHO-1d2d3d4d5d6d7d8cMA-1"),
   (0x1B0C3, "d2d3d4d5d6d7cMI-1d2d3d4d5d6d7cMU-1d2d3d4cME-1d2dMAcMO-1d2d3d4d5d6cYA-1d2d3d4d5"),
   (0x1B0E2, "dYOcYU-1d2d3d4cYO-1d2d3d4d5d6cRA-1d2d3d4cRI-1d2d3d4d5d6d7cRU-1d2d3d4d5d6cRE-1"),
   (0x1B0FF, "d2d3d4cRO-1d2d3d4d5d6cWA-1d2d3d4d5cWI-1d2d3d4d5cWE-1d2d3d4cWO-1d2d3d4d5d6d7"),
   (0x1B11D, "cN-MU-MO-1f2aHIRAGANA LETTER ARCHAIC WUaKATAKANA LETTER ARCHAIC YIdYEdWU"),
   (0x1B150, "aHIRAGANA LETTER SMALL WIdWEdWO"),
   (0x1B164, "aKATAKANA LETTER SMALL WIdWEdWOdN"),
   (0x1B170, "aNUSHU CHARACTER-1B170c1B171c1B172c1B173c1B174c1B175c1B176c1B177c1B178c1B179"),
   (0x1B17A, "c1B17Ac1B17Bc1B17Cc1B17Dc1B17Ec1B17Fc1B180c1B181c1B182c1B183c1B184c1B185c1B186"),
   (0x1B187, "c1B187c1B188c1B189c1B18Ac1B18Bc1B18Cc1B18Dc1B18Ec1B18Fc1B190c1B191c1B192c1B193"),
   (0x1B194, "c1B194c1B195c1B196c1B197c1B198c1B199c1B19Ac1B19Bc1B19Cc1B19Dc1B19Ec1B19Fc1B1A0"),
   (0x1B1A1, "c1B1A1c1B1A2c1B1A3c1B1A4c1B1A5c1B1A6c1B1A7c1B1A8c1B1A9c1B1AAc1B1ABc1B1ACc1B1AD"),
   (0x1B1AE, "c1B1AEc1B1AFc1B1B0c1B1B1c1B1B2c1B1B3c1B1B4c1B1B5c1B1B6c1B1B7c1B1B8c1B1B9c1B1BA"),
   (0x1B1BB, "c1B1BBc1B1BCc1B1BDc1B1BEc1B1BFc1B1C0c1B1C1c1B1C2c1B1C3c1B1C4c1B1C5c1B1C6c1B1C7"),
   (0x1B1C8, "c1B1C8c1B1C9c1B1CAc1B1CBc1B1CCc1B1CDc1B1CEc1B1CFc1B1D0c1B1D1c1B1D2c1B1D3c1B1D4"),
   (0x1B1D5, "c1B1D5c1B1D6c1B1D7c1B1D8c1B1D9c1B1DAc1B1DBc1B1DCc1B1DDc1B1DEc1B1DFc1B1E0c1B1E1"),
   (0x1B1E2, "c1B1E2c1B1E3c1B1E4c1B1E5c1B1E6c1B1E7c1B1E8c1B1E9c1B1EAc1B1EBc1B1ECc1B1EDc1B1EE"),
   (0x1B1EF, "c1B1EFc1B1F0c1B1F1c1B1F2c1B1F3c1B1F4c1B1F5c1B1F6c1B1F7c1B1F8c1B1F9c1B1FAc1B1FB"),
   (0x1B1FC, "c1B1FCc1B1FDc1B1FEc1B1FFc1B200c1B201c1B202c1B203c1B204c1B205c1B206c1B207c1B208"),
   (0x1B209, "c1B209c1B20Ac1B20Bc1B20Cc1B20Dc1B20Ec1B20Fc1B210c1B211c1B212c1B213c1B214c1B215"),
   (0x1B216, "c1B216c1B217c1B218c1B219c1B21Ac1B21Bc1B21Cc1B21Dc1B21Ec1B21Fc1B220c1B221c1B222"),
   (0x1B223, "c1B223c1B224c1B225c1B226c1B227c1B228c1B229c1B22Ac1B22Bc1B22Cc1B22Dc1B22Ec1B22F"),
   (0x1B230, "c1B230c1B231c1B232c1B233c1B234c1B235c1B236c1B237c1B238c1B239c1B23Ac1B23Bc1B23C"),
   (0x1B23D, "c1B23Dc1B23Ec1B23Fc1B240c1B241c1B242c1B243c1B244c1B245c1B246c1B247c1B248c1B249"),
   (0x1B24A, "c1B24Ac1B24Bc1B24Cc1B24Dc1B24Ec1B24Fc1B250c1B251c1B252c1B253c1B254c1B255c1B256"),
   (0x1B257, "c1B257c1B258c1B259c1B25Ac1B25Bc1B25Cc1B25Dc1B25Ec1B25Fc1B260c1B261c1B262c1B263"),
   (0x1B264, "c1B264c1B265c1B266c1B267c1B268c1B269c1B26Ac1B26Bc1B26Cc1B26Dc1B26Ec1B26Fc1B270"),
   (0x1B271, "c1B271c1B272c1B273c1B274c1B275c1B276c1B277c1B278c1B279c1B27Ac1B27Bc1B27Cc1B27D"),
   (0x1B27E, "c1B27Ec1B27Fc1B280c1B281c1B282c1B283c1B284c1B285c1B286c1B287c1B288c1B289c1B28A"),
   (0x1B28B, "c1B28Bc1B28Cc1B28Dc1B28Ec1B28Fc1B290c1B291c1B292c1B293c1B294c1B295c1B296c1B297"),
   (0x1B298, "c1B298c1B299c1B29Ac1B29Bc1B29Cc1B29Dc1B29Ec1B29Fc1B2A0c1B2A1c1B2A2c1B2A3c1B2A4"),
   (0x1B2A5, "c1B2A5c1B2A6c1B2A7c1B2A8c1B2A9c1B2AAc1B2ABc1B2ACc1B2ADc1B2AEc1B2AFc1B2B0c1B2B1"),
   (0x1B2B2, "c1B2B2c1B2B3c1B2B4c1B2B5c1B2B6c1B2B7c1B2B8c1B2B9c1B2BAc1B2BBc1B2BCc1B2BDc1B2BE"),
   (0x1B2BF, "c1B2BFc1B2C0c1B2C1c1B2C2c1B2C3c1B2C4c1B2C5c1B2C6c1B2C7c1B2C8c1B2C9c1B2CAc1B2CB"),
   (0x1B2CC, "c1B2CCc1B2CDc1B2CEc1B2CFc1B2D0c1B2D1c1B2D2c1B2D3c1B2D4c1B2D5c1B2D6c1B2D7c1B2D8"),
   (0x1B2D9, "c1B2D9c1B2DAc1B2DBc1B2DCc1B2DDc1B2DEc1B2DFc1B2E0c1B2E1c1B2E2c1B2E3c1B2E4c1B2E5"),
   (0x1B2E6, "c1B2E6c1B2E7c1B2E8c1B2E9c1B2EAc1B2EBc1B2ECc1B2EDc1B2EEc1B2EFc1B2F0c1B2F1c1B2F2"),
   (0x1B2F3, "c1B2F3c1B2F4c1B2F5c1B2F6c1B2F7c1B2F8c1B2F9c1B2FAc1B2FB"),
   (0x1BC00, "aDUPLOYAN LETTER HcXcPcTcFcKcLcBcDcVcGcRcP NcD ScF NcK McR ScTHcSLOAN DHcDHcKK"),
   (0x1BC15, "cSLOAN JcHLcLHcRHcMcNcJcScM NcN McJ McS JcM WITH DOTcN WITH DOTcJ WITH DOT"),
   (0x1BC24, "eDOTS INSIDE AND ABOVEcS WITH DOTeDOT BELOWcM ScN ScJ ScS ScM N ScN M ScJ M S"),
   (0x1BC2E, "cS J ScJ S WITH DOTdNdN ScS TdT RdPdP RcT SdR ScWcWHcW RcS NdMcK R ScG R ScS K"),
   (0x1BC40, "dK RcAcSLOAN OWcOAcOcAOUcIcEcIEcSHORT IcUIcEEcSLOAN EHcROMANIAN IcSLOAN EE"),
   (0x1BC4F, "cLONG IcYEcUcEUcXWcU NcLONG UcROMANIAN UcUHcSLOAN UcOOHcOWcOUcWAcWOcWIcWEIcWOW"),
   (0x1BC61, "cNASAL UdOdIdAcPERNIN ANdAMcSLOAN ENdANdONcVOCALIC M"),
   (0x1BC70, "bAFFIX LEFT HORIZONTAL SECANTcMID HORIZONTAL SECANTcRIGHT HORIZONTAL SECANT"),
   (0x1BC73, "cLOW VERTICAL SECANTcMID VERTICAL SECANTcHIGH VERTICAL SECANTcATTACHED SECANT"),
   (0x1BC77, "dLEFT-TO-RIGHT SECANTdTANGENTdTAILdE HOOKdI HOOKdTANGENT HOOK"),
   (0x1BC80, "cHIGH ACUTEdTIGHT ACUTEdGRAVEdLONG GRAVEdDOTdCIRCLEdLINEdWAVEdVERTICAL"),
   (0x1BC90, "cLOW ACUTEdTIGHT ACUTEdGRAVEdLONG GRAVEdDOTdCIRCLEdLINEdWAVEdVERTICALdARROW"),
   (0x1BC9C, "bSIGN O WITH CROSSbTHICK LETTER SELECTORbDOUBLE MARK"),
   (0x1BC9F, "bPUNCTUATION CHINOOK FULL STOPaSHORTHAND FORMAT LETTER OVERLAP"),
   (0x1BCA1, "cCONTINUING OVERLAPcDOWN STEPcUP STEP"),
   (0x1CF00, "aZNAMENNY COMBINING MARK GORAZDO NIZKO S KRYZHEM ON LEFT"),
   (0x1CF01, "dNIZKO S KRYZHEM ON LEFTdTSATA ON LEFTdGORAZDO NIZKO ON LEFTdNIZKO ON LEFT"),
   (0x1CF05, "dSREDNE ON LEFTdMALO POVYSHE ON LEFTdPOVYSHE ON LEFTdVYSOKO ON LEFT"),
   (0x1CF09, "dMALO POVYSHE S KHOKHLOM ON LEFTdPOVYSHE S KHOKHLOM ON LEFT"),
   (0x1CF0B, "dVYSOKO S KHOKHLOM ON LEFTdGORAZDO NIZKO S KRYZHEM ON RIGHT"),
   (0x1CF0D, "dNIZKO S KRYZHEM ON RIGHTdTSATA ON RIGHTdGORAZDO NIZKO ON RIGHTdNIZKO ON RIGHT"),
   (0x1CF11, "dSREDNE ON RIGHTdMALO POVYSHE ON RIGHTdPOVYSHE ON RIGHTdVYSOKO ON RIGHT"),
   (0x1CF15, "dMALO POVYSHE S KHOKHLOM ON RIGHTdPOVYSHE S KHOKHLOM ON RIGHT"),
   (0x1CF17, "dVYSOKO S KHOKHLOM ON RIGHTdTSATA S KRYZHEMdMALO POVYSHE S KRYZHEM"),
   (0x1CF1A, "dSTRANNO MALO POVYSHEdPOVYSHE S KRYZHEMeSTRANNOdVYSOKO S KRYZHEM"),
   (0x1CF1E, "dMALO POVYSHE STRANNOdGORAZDO VYSOKOdZELOdONdRAVNOdTIKHAYAdBORZAYAdUDARKA"),
   (0x1CF26, "dPODVERTKAdLOMKAdKUPNAYAdKACHKAdZEVOKdSKOBAdRAZSEKAdKRYZH ON LEFT"),
   (0x1CF30, "cTONAL RANGE MARK MRACHNOfSVETLOfTRESVETLOcMARK ZADERZHKA"),
   (0x1CF34, "dDEMESTVENNY ZADERZHKAdOTSECHKAdPODCHASHIEdPODCHASHIE WITH VERTICAL STROKE"),
   (0x1CF38, "dCHASHKAdCHASHKA POLNAYAdOBLACHKOdSOROCHYA NOZHKAdTOCHKAdDVOETOCHIE"),
   (0x1CF3E, "cATTACHING VERTICAL OMETcMARK CURVED OMETdKRYZHcLOWER TONAL RANGE INDICATOR"),
   (0x1CF42, "bPRIZNAK MODIFIER LEVEL-2e3dDIRECTION FLIPdKRYZHdROG"),
   (0x1CF50, "bNEUME KRYUKcKRYUK TIKHYcPARAKLITcDVA V CHELNUcKLYUCHcZANOZHEKcSTOPITSA"),
   (0x1CF57, "cSTOPITSA S OCHKOMcPEREVODKAcPEREVODKA NEPOSTOYANNAYA"),
   (0x1CF5A, "cSTOPITSA WITH SOROCHYA NOZHKAcCHELYUSTKAcPALKAcZAPYATAYAcGOLUBCHIK BORZY"),
   (0x1CF5F, "dTIKHYdMRACHNYdSVETLYdTRESVETLYcVRAKHIYA PROSTAYAdMRACHNAYAdSVETLAYA"),
   (0x1CF66, "dTRESVETLAYAdKLYUCHEVAYA PROSTAYAeMRACHNAYAeSVETLAYAeTRESVETLAYA"),
   (0x1CF6B, "cDOUBLE ZAPYATAYAcREVERSED CHELYUSTKAcDERBITSAcKHAMILOcCHASHKAcPODCHASHIE"),
   (0x1CF71, "cSKAMEYTSA MRACHNAYAdSVETLAYAdTRESVETLAYAdTIKHAYAcDEMESTVENNY KLYUCH"),
   (0x1CF76, "cSKAMEYTSA KLYUCHEVAYA SVETLAYAdKLYUCHENEPOSTOYANNAYAdKLYUCHEVAYA TIKHAYA"),
   (0x1CF79, "dDVOECHELNAYA PROSTAYAeSVETLAYAeNEPOSTOYANNAYAeKLYUCHEVAYAcSLOZHITIE"),
   (0x1CF7E, "cSLOZHITIE S ZAPYATOYdZAKRYTOEdS KRYZHEMcKRYZHcROGcFITAcKOBYLAcZMEYTSAcSTATYA"),
   (0x1CF87, "cSTATYA S ZAPYATOYeKRYZHEMeZAPYATOY I KRYZHEMeKRYZHEM I ZAPYATOYdZAKRYTAYA"),
   (0x1CF8C, "dZAKRYTAYA S ZAPYATOYdS ROGOMeDVUMYA ZAPYATYMIeZAPYATOY I PODCHASHIEM"),
   (0x1CF90, "cPOLKULIZMYcSTATYA NEPOSTOYANNAYAcSTRELA PROSTAYAdMRACHNOTIKHAYAdKRYZHEVAYA"),
   (0x1CF95, "dPOLUPOVODNAYAdPOVODNAYAdNEPOSTOYANNAYAdKLYUCHEPOVODNAYAdKLYUCHENEPOSTOYANNAYA"),
   (0x1CF9A, "dTIKHAYA PUTNAYAdDVOECHELNAYAdDVOECHELNOKRYZHEVAYAdDVOECHELNOPOVODNAYA"),
   (0x1CF9E, "dDVOECHELNAYA KLYUCHEVAYAdDVOECHELNOPOVODNAYA KLYUCHEVAYA"),
   (0x1CFA0, "dGROMNAYA WITH SINGLE ZAPYATAYAdGROMOPOVODNAYA WITH SINGLE ZAPYATAYAdGROMNAYA"),
   (0x1CFA3, "dGROMOPOVODNAYAdGROMOPOVODNAYA WITH DOUBLE ZAPYATAYAdGROMOKRYZHEVAYA"),
   (0x1CFA6, "dGROMOKRYZHEVAYA POVODNAYAcMECHIKcMECHIK POVODNYdKLYUCHEVOYdKLYUCHEPOVODNY"),
   (0x1CFAB, "dKLYUCHENEPOSTOYANNYcSTRELA TRYASOGLASNAYAdTRYASOPOVODNAYAdTRYASOSTRELNAYA"),
   (0x1CFAF, "cOSOKAcOSOKA SVETLAYAdTRESVETLAYAdKRYUKOVAYA SVETLAYAdKLYUCHEVAYA SVETLAYA"),
   (0x1CFB4, "eNEPOSTOYANNAYAcSTRELA KRYUKOVAYAdKRYUKOVAYA POVODNAYA"),
   (0x1CFB7, "eGROMNAYA WITH SINGLE ZAPYATAYAeGROMOPOVODNAYA WITH SINGLE ZAPYATAYAeGROMNAYA"),
   (0x1CFBA, "eGROMOPOVODNAYAeGROMOPOVODNAYA WITH DOUBLE ZAPYATAYAeGROMOKRYZHEVAYA"),
   (0x1CFBD, "eGROMOKRYZHEVAYA POVODNAYAeTRYASKAcKUFISMAcOBLAKOcDUDAcNEMKAcPAUK"),
   (0x1D000, "aBYZANTINE MUSICAL SYMBOL PSILIdDASEIAdPERISPOMENIdOXEIA EKFONITIKONeDIPLI"),
   (0x1D005, "dVAREIA EKFONITIKONeDIPLIdKATHISTIdSYRMATIKIdPARAKLITIKIdYPOKRISIS"),
   (0x1D00B, "dYPOKRISIS DIPLIdKREMASTIdAPESO EKFONITIKONdEXO EKFONITIKONdTELEIAdKENTIMATA"),
   (0x1D011, "dAPOSTROFOSdAPOSTROFOS DIPLIdSYNEVMAdTHITAdOLIGON ARCHAIONdGORGON ARCHAION"),
   (0x1D017, "dPSILONdCHAMILONdVATHYdISON ARCHAIONdKENTIMA ARCHAIONdKENTIMATA ARCHAION"),
   (0x1D01D, "dSAXIMATAdPARICHONdSTAVROS APODEXIAdOXEIAI ARCHAIONdVAREIAI ARCHAION"),
   (0x1D022, "dAPODERMA ARCHAIONdAPOTHEMAdKLASMAdREVMAdPIASMA ARCHAIONdTINAGMAdANATRICHISMA"),
   (0x1D029, "dSEISMAdSYNAGMA ARCHAIONeMETA STAVROUdOYRANISMA ARCHAIONdTHEMAdLEMOIdDYOdTRIA"),
   (0x1D031, "dTESSERAdKRATIMATAdAPESO EXO NEOdFTHORA ARCHAIONdIMIFTHORAdTROMIKON ARCHAION"),
   (0x1D037, "dKATAVA TROMIKONdPELASTONdPSIFISTONdKONTEVMAdCHOREVMA ARCHAIONdRAPISMA"),
   (0x1D03D, "dPARAKALESMA ARCHAIONdPARAKLITIKI ARCHAIONdICHADINdNANAdPETASMAdKONTEVMA ALLO"),
   (0x1D043, "dTROMIKON ALLOdSTRAGGISMATAdGRONTHISMATAdISON NEOdOLIGON NEOdOXEIA NEOdPETASTI"),
   (0x1D04A, "dKOUFISMAdPETASTOKOUFISMAdKRATIMOKOUFISMAdPELASTON NEOdKENTIMATA NEO ANO"),
   (0x1D04F, "dKENTIMA NEO ANOdYPSILIdAPOSTROFOS NEOdAPOSTROFOI SYNDESMOS NEOdYPORROI"),
   (0x1D054, "dKRATIMOYPORROONdELAFRONdCHAMILIdMIKRON ISONdVAREIA NEOdPIASMA NEO"),
   (0x1D05A, "dPSIFISTON NEOdOMALONdANTIKENOMAdLYGISMAdPARAKLITIKI NEOdPARAKALESMA NEO"),
   (0x1D060, "dETERON PARAKALESMAdKYLISMAdANTIKENOKYLISMAdTROMIKON NEOdEKSTREPTON"),
   (0x1D065, "dSYNAGMA NEOdSYRMAdCHOREVMA NEOdEPEGERMAdSEISMA NEOdXIRON KLASMA"),
   (0x1D06B, "dTROMIKOPSIFISTONdPSIFISTOLYGISMAdTROMIKOLYGISMAdTROMIKOPARAKALESMA"),
   (0x1D06F, "dPSIFISTOPARAKALESMAdTROMIKOSYNAGMAdPSIFISTOSYNAGMAdGORGOSYNTHETON"),
   (0x1D073, "dARGOSYNTHETONdETERON ARGOSYNTHETONdOYRANISMA NEOdTHEMATISMOS ESOeEXO"),
   (0x1D078, "dTHEMA APLOUNdTHES KAI APOTHESdKATAVASMAdENDOFONONdYFEN KATOeANOdSTAVROS"),
   (0x1D07F, "dKLASMA ANOdDIPLI ARCHAIONdKRATIMA ARCHAIONeALLOeNEOdAPODERMA NEOdAPLIdDIPLI"),
   (0x1D087, "dTRIPLIdTETRAPLIdKORONISdLEIMMA ENOS CHRONOUeDYO CHRONONeTRION CHRONON"),
   (0x1D08D, "eTESSARON CHRONONeIMISEOS CHRONOUdGORGON NEO ANOePARESTIGMENON ARISTERAfDEXIA"),
   (0x1D092, "dDIGORGONdDIGORGON PARESTIGMENON ARISTERA KATOgANOfDEXIAdTRIGORGONdARGON"),
   (0x1D098, "dIMIDIARGONdDIARGONdAGOGI POLI ARGIeARGOTERIeARGIeMETRIAeMESIeGORGIeGORGOTERI"),
   (0x1D0A1, "ePOLI GORGIdMARTYRIA PROTOS ICHOSeALLI PROTOS ICHOSeDEYTEROS ICHOS"),
   (0x1D0A5, "eALLI DEYTEROS ICHOSeTRITOS ICHOSeTRIFONIASeTETARTOS ICHOSfLEGETOS ICHOS"),
   (0x1D0AA, "eLEGETOS ICHOSePLAGIOS ICHOSdISAKIA TELOUS ICHIMATOS"),
   (0x1D0AD, "dAPOSTROFOI TELOUS ICHIMATOSdFANEROSIS TETRAFONIASeMONOFONIASeDIFONIAS"),
   (0x1D0B1, "dMARTYRIA VARYS ICHOSePROTOVARYS ICHOSePLAGIOS TETARTOS ICHOS"),
   (0x1D0B4, "dGORTHMIKON N APLOUNfDIPLOUNdENARXIS KAI FTHORA VOUdIMIFONONdIMIFTHORON"),
   (0x1D0B9, "dFTHORA ARCHAION DEYTEROU ICHOUeDIATONIKI PAfNANAeNAOS ICHOSeDIATONIKI DI"),
   (0x1D0BE, "eSKLIRON DIATONON DIeDIATONIKI KEfZOfNI KATOgANOeMALAKON CHROMA DIFONIAS"),
   (0x1D0C4, "gMONOFONIASdFHTORA SKLIRON CHROMA VASISdFTHORA SKLIRON CHROMA SYNAFIeNENANO"),
   (0x1D0C8, "dCHROA ZYGOSeKLITONeSPATHIdFTHORA I YFESIS TETARTIMORIONeENARMONIOS ANTIFONIA"),
   (0x1D0CD, "dYFESIS TRITIMORIONdDIESIS TRITIMORIONeTETARTIMORIONeAPLI DYO DODEKATA"),
   (0x1D0D1, "eMONOGRAMMOS TESSERA DODEKATAeDIGRAMMOS EX DODEKATAeTRIGRAMMOS OKTO DODEKATA"),
   (0x1D0D4, "dYFESIS APLI DYO DODEKATAeMONOGRAMMOS TESSERA DODEKATAeDIGRAMMOS EX DODEKATA"),
   (0x1D0D7, "eTRIGRAMMOS OKTO DODEKATAdGENIKI DIESISeYFESISdDIASTOLI APLI MIKRIfMEGALI"),
   (0x1D0DC, "eDIPLIeTHESEOSdSIMANSIS THESEOSeTHESEOS DISIMOUfTRISIMOUfTETRASIMOUeARSEOS"),
   (0x1D0E3, "eARSEOS DISIMOUfTRISIMOUfTETRASIMOUdDIGRAMMA GGdDIFTOGGOS OUdSTIGMAdARKTIKO PA"),
   (0x1D0EA, "eVOUeGAeDIeKEeZOeNIdKENTIMATA NEO MESOdKENTIMA NEO MESOdKENTIMATA NEO KATO"),
   (0x1D0F3, "dKENTIMA NEO KATOdKLASMA KATOdGORGON NEO KATO"),
   (0x1D100, "aMUSICAL SYMBOL SINGLE BARLINEcDOUBLE BARLINEcFINAL BARLINE"),
   (0x1D103, "cREVERSE FINAL BARLINEcDASHED BARLINEcSHORT BARLINEcLEFT REPEAT SIGN"),
   (0x1D107, "cRIGHT REPEAT SIGNcREPEAT DOTScDAL SEGNOcDA CAPOcSEGNOcCODAcREPEATED FIGURE-1"),
   (0x1D10E, "e2e3cFERMATAcFERMATA BELOWcBREATH MARKcCAESURAcBRACEcBRACKETcONE-LINE STAFF"),
   (0x1D117, "cTWO-LINE STAFFcTHREE-LINE STAFFcFOUR-LINE STAFFcFIVE-LINE STAFF"),
   (0x1D11B, "cSIX-LINE STAFFdSTRING FRETBOARDcFOUR-STRING FRETBOARDcG CLEFdCLEF OTTAVA ALTA"),
   (0x1D120, "fBASSAcC CLEFcF CLEFdCLEF OTTAVA ALTAfBASSAcDRUM CLEF-1e2"),
   (0x1D129, "cMULTIPLE MEASURE RESTcDOUBLE SHARPdFLATcFLAT UPdDOWNcNATURAL UPdDOWNcSHARP UP"),
   (0x1D131, "dDOWNcQUARTER TONE SHARPeFLATcCOMMON TIMEcCUT TIMEcOTTAVA ALTAdBASSA"),
   (0x1D138, "cQUINDICESIMA ALTAdBASSAcMULTI RESTcWHOLE RESTcHALF RESTcQUARTER REST"),
   (0x1D13E, "cEIGHTH RESTcSIXTEENTH RESTcTHIRTY-SECOND RESTcSIXTY-FOURTH REST"),
   (0x1D142, "cONE HUNDRED TWENTY-EIGHTH RESTcX NOTEHEADcPLUS NOTEHEADcCIRCLE X NOTEHEAD"),
   (0x1D146, "cSQUARE NOTEHEAD WHITEeBLACKcTRIANGLE NOTEHEAD UP WHITEfBLACKeLEFT WHITEfBLACK"),
   (0x1D14C, "eRIGHT WHITEfBLACKeDOWN WHITEfBLACKeUP RIGHT WHITEgBLACKcMOON NOTEHEAD WHITE"),
   (0x1D153, "eBLACKcTRIANGLE-ROUND NOTEHEAD DOWN WHITEgBLACKcPARENTHESIS NOTEHEAD"),
   (0x1D157, "cVOID NOTEHEADcNOTEHEAD BLACKcNULL NOTEHEADcCLUSTER NOTEHEAD WHITEeBLACKcBREVE"),
   (0x1D15D, "cWHOLE NOTEcHALF NOTEcQUARTER NOTEcEIGHTH NOTEcSIXTEENTH NOTE"),
   (0x1D162, "cTHIRTY-SECOND NOTEcSIXTY-FOURTH NOTEcONE HUNDRED TWENTY-EIGHTH NOTE"),
   (0x1D165, "cCOMBINING STEMdSPRECHGESANG STEMdTREMOLO-1e2e3cFINGERED TREMOLO-1e2e3"),
   (0x1D16D, "cCOMBINING AUGMENTATION DOTdFLAG-1e2e3e4e5cBEGIN BEAMcEND BEAMcBEGIN TIE"),
   (0x1D176, "cEND TIEcBEGIN SLURcEND SLURcBEGIN PHRASEcEND PHRASEcCOMBINING ACCENTdSTACCATO"),
   (0x1D17D, "dTENUTOdSTACCATISSIMOdMARCATOdMARCATO-STACCATOdACCENT-STACCATOdLOURE"),
   (0x1D183, "cARPEGGIATO UPdDOWNcCOMBINING DOITdRIPdFLIPdSMEARdBENDdDOUBLE TONGUE"),
   (0x1D18B, "dTRIPLE TONGUEcRINFORZANDOcSUBITOcZcPIANOcMEZZOcFORTEcCRESCENDOcDECRESCENDO"),
   (0x1D194, "cGRACE NOTE SLASHeNO SLASHcTRcTURNcINVERTED TURNcTURN SLASHdUP"),
   (0x1D19B, "cORNAMENT STROKE-1e2e3e4e5e6e7e8e9e10e11cHAUPTSTIMMEcNEBENSTIMMEcEND OF STIMME"),
   (0x1D1A9, "cDEGREE SLASHcCOMBINING DOWN BOWdUP BOWdHARMONICdSNAP PIZZICATOcPEDAL MARK"),
   (0x1D1AF, "dUP MARKcHALF PEDAL MARKcGLISSANDO UPdDOWNcWITH FINGERNAILScDAMPcDAMP ALL"),
   (0x1D1B6, "cMAXIMAcLONGAcBREVIScSEMIBREVIS WHITEdBLACKcMINIMAcMINIMA BLACK"),
   (0x1D1BD, "cSEMIMINIMA WHITEdBLACKcFUSA WHITEdBLACKcLONGA PERFECTA RESTdIMPERFECTA REST"),
   (0x1D1C3, "cBREVIS RESTcSEMIBREVIS RESTcMINIMA RESTcSEMIMINIMA REST"),
   (0x1D1C7, "cTEMPUS PERFECTUM CUM PROLATIONE PERFECTAgIMPERFECTAgPERFECTA DIMINUTION-1"),
   (0x1D1CA, "dIMPERFECTUM CUM PROLATIONE PERFECTAgIMPERFECTAgIMPERFECTA DIMINUTION-1i2i3"),
   (0x1D1CF, "cCROIXcGREGORIAN C CLEFdF CLEFcSQUARE BcVIRGAcPODATUScCLIVIScSCANDICUS"),
   (0x1D1D7, "cCLIMACUScTORCULUScPORRECTUScPORRECTUS FLEXUScSCANDICUS FLEXUS"),
   (0x1D1DC, "cTORCULUS RESUPINUScPES SUBPUNCTIScKIEVAN C CLEFdEND OF PIECEdFINAL NOTE"),
   (0x1D1E1, "dRECITATIVE MARKdWHOLE NOTEdHALF NOTEdQUARTER NOTE STEM DOWNgUP"),
   (0x1D1E6, "dEIGHTH NOTE STEM DOWNgUPdFLAT SIGNcSORIcKORON"),
   (0x1D200, "aGREEK VOCAL NOTATION SYMBOL-1e2e3e4e5e6e7e8e9e10e11e12e13e14e15e16e17e18e19"),
   (0x1D213, "e20e21e22e23e24e50e51e52e53e54bINSTRUMENTAL NOTATION SYMBOL-1e2e4e5e7e8e11e12"),
   (0x1D225, "e13e14e17e18e19e23e24e25e26e27e29e30e32e36e37e38e39e40e42e43e45e47e48e49e50e51"),
   (0x1D23F, "e52e53e54aCOMBINING GREEK MUSICAL TRISEMEdTETRASEMEdPENTASEME"),
   (0x1D245, "aGREEK MUSICAL LEIMMA"),
   (0x1D2E0, "aMAYAN NUMERAL ZEROcONEcTWOcTHREEcFOURcFIVEcSIXcSEVENcEIGHTcNINEcTENcELEVEN"),
   (0x1D2EC, "cTWELVEcTHIRTEENcFOURTEENcFIFTEENcSIXTEENcSEVENTEENcEIGHTEENcNINETEEN"),
   (0x1D300, "aMONOGRAM FOR EARTHaDIGRAM FOR HEAVENLY EARTHcHUMAN EARTHcEARTHLY HEAVENdHUMAN"),
   (0x1D305, "cEARTHaTETRAGRAM FOR CENTREcFULL CIRCLEcMIREDcBARRIERcKEEPING SMALL"),
   (0x1D30B, "cCONTRARIETYcASCENTcOPPOSITIONcBRANCHING OUTcDEFECTIVENESS OR DISTORTION"),
   (0x1D310, "cDIVERGENCEcYOUTHFULNESScINCREASEcPENETRATIONcREACHcCONTACTcHOLDING BACK"),
   (0x1D317, "cWAITINGcFOLLOWINGcADVANCEcRELEASEcRESISTANCEcEASEcJOYcCONTENTIONcENDEAVOUR"),
   (0x1D320, "cDUTIEScCHANGEcDECISIVENESScBOLD RESOLUTIONcPACKINGcLEGIONcCLOSENESScKINSHIP"),
   (0x1D328, "cGATHERINGcSTRENGTHcPURITYcFULLNESScRESIDENCEcLAW OR MODELcRESPONSE"),
   (0x1D32F, "cGOING TO MEETcENCOUNTERScSTOVEcGREATNESScENLARGEMENTcPATTERNcRITUALcFLIGHT"),
   (0x1D337, "cVASTNESS OR WASTINGcCONSTANCYcMEASUREcETERNITYcUNITYcDIMINISHMENT"),
   (0x1D33D, "cCLOSED MOUTHcGUARDEDNESScGATHERING INcMASSINGcACCUMULATIONcEMBELLISHMENT"),
   (0x1D343, "cDOUBTcWATCHcSINKINGcINNERcDEPARTUREcDARKENINGcDIMMINGcEXHAUSTIONcSEVERANCE"),
   (0x1D34C, "cSTOPPAGEcHARDNESScCOMPLETIONcCLOSUREcFAILUREcAGGRAVATIONcCOMPLIANCE"),
   (0x1D353, "cON THE VERGEcDIFFICULTIEScLABOURINGcFOSTERING"),
   (0x1D360, "aCOUNTING ROD UNIT DIGIT ONEeTWOeTHREEeFOUReFIVEeSIXeSEVENeEIGHTeNINE"),
   (0x1D369, "cTENS DIGIT ONEeTWOeTHREEeFOUReFIVEeSIXeSEVENeEIGHTeNINE"),
   (0x1D372, "aIDEOGRAPHIC TALLY MARK ONEdTWOdTHREEdFOURdFIVEaTALLY MARK ONEcFIVE"),
   (0x1D400, "aMATHEMATICAL BOLD CAPITAL AdBdCdDdEdFdGdHdIdJdKdLdMdNdOdPdQdRdSdTdUdVdWdXdYdZ"),
   (0x1D41A, "cSMALL AdBdCdDdEdFdGdHdIdJdKdLdMdNdOdPdQdRdSdTdUdVdWdXdYdZbITALIC CAPITAL AdB"),
   (0x1D436, "dCdDdEdFdGdHdIdJdKdLdMdNdOdPdQdRdSdTdUdVdWdXdYdZcSMALL AdBdCdDdEdFdG"),
   (0x1D456, "dIdJdKdLdMdNdOdPdQdRdSdTdUdVdWdXdYdZbBOLD ITALIC CAPITAL AeBeCeDeEeFeGeHeIeJeK"),
   (0x1D473, "eLeMeNeOePeQeReSeTeUeVeWeXeYeZdSMALL AeBeCeDeEeFeGeHeIeJeKeLeMeNeOePeQeReSeTeU"),
   (0x1D497, "eVeWeXeYeZbSCRIPT CAPITAL A"),
   (0x1D49E, "dCdD"),
   (0x1D4A2, "dG"),
   (0x1D4A5, "dJdK"),
   (0x1D4A9, "dNdOdPdQ"),
   (0x1D4AE, "dSdTdUdVdWdXdYdZcSMALL AdBdCdD"),
   (0x1D4BB, "dF"),
   (0x1D4BD, "dHdIdJdKdLdMdN"),
   (0x1D4C5, "dPdQdRdSdTdUdVdWdXdYdZbBOLD SCRIPT CAPITAL AeBeCeDeEeFeGeHeIeJeKeLeMeNeOePeQeR"),
   (0x1D4E2, "eSeTeUeVeWeXeYeZdSMALL AeBeCeDeEeFeGeHeIeJeKeLeMeNeOePeQeReSeTeUeVeWeXeYeZ"),
   (0x1D504, "bFRAKTUR CAPITAL AdB"),
   (0x1D507, "dDdEdFdG"),
   (0x1D50D, "dJdKdLdMdNdOdPdQ"),
   (0x1D516, "dSdTdUdVdWdXdY"),
   (0x1D51E, "cSMALL AdBdCdDdEdFdGdHdIdJdKdLdMdNdOdPdQdRdSdTdUdVdWdXdYdZ"),
   (0x1D538, "bDOUBLE-STRUCK CAPITAL AeB"),
   (0x1D53B, "eDeEeFeG"),
   (0x1D540, "eIeJeKeLeM"),
   (0x1D546, "eO"),
   (0x1D54A, "eSeTeUeVeWeXeY"),
   (0x1D552, "dSMALL AeBeCeDeEeFeGeHeIeJeKeLeMeNeOePeQeReSeTeUeVeWeXeYeZ"),
   (0x1D56C, "bBOLD FRAKTUR CAPITAL AeBeCeDeEeFeGeHeIeJeKeLeMeNeOePeQeReSeTeUeVeWeXeYeZ"),
   (0x1D586, "dSMALL AeBeCeDeEeFeGeHeIeJeKeLeMeNeOePeQeReSeTeUeVeWeXeYeZ"),
   (0x1D5A0, "bSANS-SERIF CAPITAL AeBeCeDeEeFeGeHeIeJeKeLeMeNeOePeQeReSeTeUeVeWeXeYeZ"),
   (0x1D5BA, "dSMALL AeBeCeDeEeFeGeHeIeJeKeLeMeNeOePeQeReSeTeUeVeWeXeYeZdBOLD CAPITAL AfBfC"),
   (0x1D5D7, "fDfEfFfGfHfIfJfKfLfMfNfOfPfQfRfSfTfUfVfWfXfYfZeSMALL AfBfCfDfEfFfGfHfIfJfKfLfM"),
   (0x1D5FB, "fNfOfPfQfRfSfTfUfVfWfXfYfZdITALIC CAPITAL AfBfCfDfEfFfGfHfIfJfKfLfMfNfOfPfQfR"),
   (0x1D61A, "fSfTfUfVfWfXfYfZeSMALL AfBfCfDfEfFfGfHfIfJfKfLfMfNfOfPfQfRfSfTfUfVfWfXfYfZ"),
   (0x1D63C, "dBOLD ITALIC CAPITAL AgBgCgDgEgFgGgHgIgJgKgLgMgNgOgPgQgRgSgTgUgVgWgXgYgZ"),
   (0x1D656, "fSMALL AgBgCgDgEgFgGgHgIgJgKgLgMgNgOgPgQgRgSgTgUgVgWgXgYgZbMONOSPACE CAPITAL A"),
   (0x1D671, "dBdCdDdEdFdGdHdIdJdKdLdMdNdOdPdQdRdSdTdUdVdWdXdYdZcSMALL AdBdCdDdEdFdGdHdIdJdK"),
   (0x1D695, "dLdMdNdOdPdQdRdSdTdUdVdWdXdYdZbITALIC SMALL DOTLESS IeJ"),
   (0x1D6A8, "bBOLD CAPITAL ALPHAdBETAdGAMMAdDELTAdEPSILONdZETAdETAdTHETAdIOTAdKAPPAdLAMDA"),
   (0x1D6B3, "dMUdNUdXIdOMICRONdPIdRHOdTHETA SYMBOLdSIGMAdTAUdUPSILONdPHIdCHIdPSIdOMEGA"),
   (0x1D6C1, "cNABLAcSMALL ALPHAdBETAdGAMMAdDELTAdEPSILONdZETAdETAdTHETAdIOTAdKAPPAdLAMDAdMU"),
   (0x1D6CE, "dNUdXIdOMICRONdPIdRHOdFINAL SIGMAdSIGMAdTAUdUPSILONdPHIdCHIdPSIdOMEGA"),
   (0x1D6DB, "cPARTIAL DIFFERENTIALcEPSILON SYMBOLcTHETA SYMBOLcKAPPA SYMBOLcPHI SYMBOL"),
   (0x1D6E0, "cRHO SYMBOLcPI SYMBOLbITALIC CAPITAL ALPHAdBETAdGAMMAdDELTAdEPSILONdZETAdETA"),
   (0x1D6E9, "dTHETAdIOTAdKAPPAdLAMDAdMUdNUdXIdOMICRONdPIdRHOdTHETA SYMBOLdSIGMAdTAUdUPSILON"),
   (0x1D6F7, "dPHIdCHIdPSIdOMEGAcNABLAcSMALL ALPHAdBETAdGAMMAdDELTAdEPSILONdZETAdETAdTHETA"),
   (0x1D704, "dIOTAdKAPPAdLAMDAdMUdNUdXIdOMICRONdPIdRHOdFINAL SIGMAdSIGMAdTAUdUPSILONdPHI"),
   (0x1D712, "dCHIdPSIdOMEGAcPARTIAL DIFFERENTIALcEPSILON SYMBOLcTHETA SYMBOLcKAPPA SYMBOL"),
   (0x1D719, "cPHI SYMBOLcRHO SYMBOLcPI SYMBOLbBOLD ITALIC CAPITAL ALPHAeBETAeGAMMAeDELTA"),
   (0x1D720, "eEPSILONeZETAeETAeTHETAeIOTAeKAPPAeLAMDAeMUeNUeXIeOMICRONePIeRHOeTHETA SYMBOL"),
   (0x1D72E, "eSIGMAeTAUeUPSILONePHIeCHIePSIeOMEGAdNABLAdSMALL ALPHAeBETAeGAMMAeDELTA"),
   (0x1D73A, "eEPSILONeZETAeETAeTHETAeIOTAeKAPPAeLAMDAeMUeNUeXIeOMICRONePIeRHOeFINAL SIGMA"),
   (0x1D748, "eSIGMAeTAUeUPSILONePHIeCHIePSIeOMEGAdPARTIAL DIFFERENTIALdEPSILON SYMBOL"),
   (0x1D751, "dTHETA SYMBOLdKAPPA SYMBOLdPHI SYMBOLdRHO SYMBOLdPI SYMBOL"),
   (0x1D756, "bSANS-SERIF BOLD CAPITAL ALPHAfBETAfGAMMAfDELTAfEPSILONfZETAfETAfTHETAfIOTA"),
   (0x1D75F, "fKAPPAfLAMDAfMUfNUfXIfOMICRONfPIfRHOfTHETA SYMBOLfSIGMAfTAUfUPSILONfPHIfCHI"),
   (0x1D76D, "fPSIfOMEGAeNABLAeSMALL ALPHAfBETAfGAMMAfDELTAfEPSILONfZETAfETAfTHETAfIOTA"),
   (0x1D779, "fKAPPAfLAMDAfMUfNUfXIfOMICRONfPIfRHOfFINAL SIGMAfSIGMAfTAUfUPSILONfPHIfCHIfPSI"),
   (0x1D788, "fOMEGAePARTIAL DIFFERENTIALeEPSILON SYMBOLeTHETA SYMBOLeKAPPA SYMBOL"),
   (0x1D78D, "ePHI SYMBOLeRHO SYMBOLePI SYMBOLeITALIC CAPITAL ALPHAgBETAgGAMMAgDELTAgEPSILON"),
   (0x1D795, "gZETAgETAgTHETAgIOTAgKAPPAgLAMDAgMUgNUgXIgOMICRONgPIgRHOgTHETA SYMBOLgSIGMA"),
   (0x1D7A3, "gTAUgUPSILONgPHIgCHIgPSIgOMEGAfNABLAfSMALL ALPHAgBETAgGAMMAgDELTAgEPSILONgZETA"),
   (0x1D7B0, "gETAgTHETAgIOTAgKAPPAgLAMDAgMUgNUgXIgOMICRONgPIgRHOgFINAL SIGMAgSIGMAgTAU"),
   (0x1D7BE, "gUPSILONgPHIgCHIgPSIgOMEGAfPARTIAL DIFFERENTIALfEPSILON SYMBOLfTHETA SYMBOL"),
   (0x1D7C6, "fKAPPA SYMBOLfPHI SYMBOLfRHO SYMBOLfPI SYMBOLbBOLD CAPITAL DIGAMMA"),
   (0x1D7CB, "cSMALL DIGAMMA"),
   (0x1D7CE, "cDIGIT ZEROdONEdTWOdTHREEdFOURdFIVEdSIXdSEVENdEIGHTdNINE"),
   (0x1D7D8, "bDOUBLE-STRUCK DIGIT ZEROeONEeTWOeTHREEeFOUReFIVEeSIXeSEVENeEIGHTeNINE"),
   (0x1D7E2, "bSANS-SERIF DIGIT ZEROeONEeTWOeTHREEeFOUReFIVEeSIXeSEVENeEIGHTeNINE"),
   (0x1D7EC, "dBOLD DIGIT ZEROfONEfTWOfTHREEfFOURfFIVEfSIXfSEVENfEIGHTfNINE"),
   (0x1D7F6, "bMONOSPACE DIGIT ZEROdONEdTWOdTHREEdFOURdFIVEdSIXdSEVENdEIGHTdNINE"),
   (0x1D800, "aSIGNWRITING HAND-FIST INDEXcCIRCLE INDEXcCUP INDEXcOVAL INDEXcHINGE INDEX"),
   (0x1D805, "cANGLE INDEXcFIST INDEX BENTcCIRCLE INDEX BENTcFIST THUMB UNDER INDEX BENT"),
   (0x1D809, "dINDEX RAISED KNUCKLEeCUPPEDeHINGEDeHINGED LOWcCIRCLE INDEX HINGE"),
   (0x1D80E, "cFIST INDEX MIDDLEcCIRCLE INDEX MIDDLEcFIST INDEX MIDDLE BENTfRAISED KNUCKLES"),
   (0x1D812, "fHINGEDeUP MIDDLE HINGEDeHINGED MIDDLE UPeMIDDLE CONJOINED"),
   (0x1D816, "fCONJOINED INDEX BENTgMIDDLE BENTgCUPPEDgHINGEDfCROSSED"),
   (0x1D81B, "cCIRCLE INDEX MIDDLE CROSSEDcFIST MIDDLE BENT OVER INDEX"),
   (0x1D81D, "dINDEX BENT OVER MIDDLEeMIDDLE THUMBcCIRCLE INDEX MIDDLE THUMB"),
   (0x1D820, "cFIST INDEX MIDDLE STRAIGHT THUMB BENTfBENT THUMB STRAIGHTfTHUMB BENT"),
   (0x1D823, "fHINGED SPREAD THUMB SIDEeUP MIDDLE HINGED THUMB SIDEiCONJOINED"),
   (0x1D826, "eHINGED MIDDLE UP THUMB SIDEeMIDDLE UP SPREAD THUMB FORWARDfTHUMB CUPPED"),
   (0x1D829, "gCIRCLEDgHOOKEDgHINGEDdTHUMB BETWEEN INDEX MIDDLE STRAIGHT"),
   (0x1D82D, "dINDEX MIDDLE CONJOINED THUMB SIDEhSIDE CONJOINEDiBENT"),
   (0x1D830, "dMIDDLE THUMB HOOKED INDEX UPdINDEX THUMB HOOKED MIDDLE UP"),
   (0x1D832, "eMIDDLE CONJOINED HINGED THUMB SIDEfCROSSED THUMB SIDEfCONJOINED THUMB FORWARD"),
   (0x1D835, "gCUPPED THUMB FORWARDdMIDDLE THUMB CUPPED INDEX UP"),
   (0x1D837, "dINDEX THUMB CUPPED MIDDLE UPdMIDDLE THUMB CIRCLED INDEX UPhHINGED"),
   (0x1D83A, "dINDEX THUMB ANGLED OUT MIDDLE UPgIN MIDDLE UPfCIRCLED MIDDLE UP"),
   (0x1D83D, "eMIDDLE THUMB CONJOINED HINGEDgANGLED OUTgANGLED"),
   (0x1D840, "dMIDDLE THUMB ANGLED OUT INDEX UPiCROSSEDgINDEX UP"),
   (0x1D843, "dINDEX THUMB HOOKED MIDDLE HINGEDcFLAT FOUR FINGERSeFINGERS BENTfHINGED"),
   (0x1D847, "fCONJOINEDfCONJOINED SPLITcCLAW FOUR FINGERS CONJOINED"),
   (0x1D84A, "cFIST FOUR FINGERS CONJOINED BENTcHINGE FOUR FINGERS CONJOINED"),
   (0x1D84C, "cFLAT FIVE FINGERS SPREADdHEEL FIVE FINGERS SPREAD"),
   (0x1D84E, "dFIVE FINGERS SPREAD FOUR BENTdHEEL FIVE FINGERS SPREAD FOUR BENT"),
   (0x1D850, "dFIVE FINGERS SPREAD BENTdHEEL FIVE FINGERS SPREAD BENT"),
   (0x1D852, "dFIVE FINGERS SPREAD THUMB FORWARDcCUP FIVE FINGERS SPREADfSPREAD OPEN"),
   (0x1D855, "cHINGE FIVE FINGERS SPREAD OPENcOVAL FIVE FINGERS SPREAD"),
   (0x1D857, "cFLAT FIVE FINGERS SPREAD HINGEDgHINGED THUMB SIDEhNO THUMBcFLAT"),
   (0x1D85B, "cFLAT BETWEEN PALM FACINGSdHEELdTHUMB SIDEdHEEL THUMB SIDEdTHUMB BENTeFORWARD"),
   (0x1D861, "dSPLIT INDEX THUMB SIDEeCENTREeCENTRE THUMB SIDEgSIDE BENTeLITTLEcCLAW"),
   (0x1D867, "cCLAW THUMB SIDEdNO THUMBdTHUMB FORWARDcHOOK CURLICUEcHOOKcCUP OPENcCUP"),
   (0x1D86E, "cCUP OPEN THUMB SIDEdTHUMB SIDEdOPEN NO THUMBdNO THUMBdOPEN THUMB FORWARD"),
   (0x1D873, "dTHUMB FORWARDcCURLICUE OPENcCURLICUEcCIRCLEcOVALcOVAL THUMB SIDEdNO THUMB"),
   (0x1D87A, "dTHUMB FORWARDcHINGE OPENdOPEN THUMB FORWARDcHINGEcHINGE SMALLdOPEN THUMB SIDE"),
   (0x1D880, "dTHUMB SIDEdOPEN NO THUMBdNO THUMBdTHUMB SIDE TOUCHING INDEX"),
   (0x1D884, "eBETWEEN MIDDLE RINGcANGLEcFIST INDEX MIDDLE RINGcCIRCLE INDEX MIDDLE RING"),
   (0x1D888, "cHINGE INDEX MIDDLE RINGcANGLE INDEX MIDDLE RINGcHINGE LITTLE"),
   (0x1D88B, "cFIST INDEX MIDDLE RING BENTgCONJOINEDcHINGE INDEX MIDDLE RING CONJOINED"),
   (0x1D88E, "cFIST LITTLE DOWNeDOWN RIPPLE STRAIGHTgCURVEDfOTHERS CIRCLEDeUP"),
   (0x1D893, "dTHUMB UNDER LITTLE UPcCIRCLE LITTLE UPcOVAL LITTLE UPcANGLE LITTLE UP"),
   (0x1D897, "cFIST LITTLE RAISED KNUCKLEeBENTeTOUCHES THUMBeTHUMBcHINGE LITTLE THUMB"),
   (0x1D89C, "cFIST LITTLE INDEX THUMBcHINGE LITTLE INDEX THUMB"),
   (0x1D89E, "cANGLE LITTLE INDEX THUMB INDEX THUMB OUThTHUMBcFIST LITTLE INDEX"),
   (0x1D8A1, "cCIRCLE LITTLE INDEXcHINGE LITTLE INDEXcANGLE LITTLE INDEX"),
   (0x1D8A4, "cFIST INDEX MIDDLE LITTLEcCIRCLE INDEX MIDDLE LITTLEcHINGE INDEX MIDDLE LITTLE"),
   (0x1D8A7, "dRINGcANGLE INDEX MIDDLE LITTLEcFIST INDEX MIDDLE CROSS LITTLE"),
   (0x1D8AA, "cCIRCLE INDEX MIDDLE CROSS LITTLEcFIST RING DOWN"),
   (0x1D8AC, "cHINGE RING DOWN INDEX THUMB HOOK MIDDLE"),
   (0x1D8AD, "cANGLE RING DOWN MIDDLE THUMB INDEX CROSScFIST RING UPeRAISED KNUCKLEeLITTLE"),
   (0x1D8B1, "cCIRCLE RING LITTLEcOVAL RING LITTLEcANGLE RING LITTLEcFIST RING MIDDLE"),
   (0x1D8B5, "eMIDDLE CONJOINEDfRAISED KNUCKLESeINDEXeTHUMBcHOOK RING THUMB"),
   (0x1D8BA, "cFIST INDEX RING LITTLEcCIRCLE INDEX RING LITTLEcCURLICUE INDEX RING LITTLE ON"),
   (0x1D8BD, "cHOOK INDEX RING LITTLE OUTgINgUNDERcCUP INDEX RING LITTLE"),
   (0x1D8C1, "cHINGE INDEX RING LITTLEcANGLE INDEX RING LITTLE OUTfLITTLEcFIST MIDDLE DOWN"),
   (0x1D8C5, "cHINGE MIDDLEcFIST MIDDLE UPcCIRCLE MIDDLE UPcFIST MIDDLE RAISED KNUCKLE"),
   (0x1D8C9, "eUP THUMB SIDEcHOOK MIDDLE THUMBcFIST MIDDLE THUMB LITTLEeLITTLEeRING LITTLE"),
   (0x1D8CE, "cCIRCLE MIDDLE RING LITTLEcCURLICUE MIDDLE RING LITTLE ON"),
   (0x1D8D0, "cCUP MIDDLE RING LITTLEcHINGE MIDDLE RING LITTLEcANGLE MIDDLE RING LITTLE OUT"),
   (0x1D8D3, "gINfLITTLEcCIRCLE MIDDLE RING LITTLE BENTcCLAW MIDDLE RING LITTLE CONJOINED"),
   (0x1D8D7, "gCONJOINED SIDEcHOOK MIDDLE RING LITTLE CONJOINED OUThINgCONJOINED"),
   (0x1D8DB, "cHINGE INDEX HINGEDcFIST INDEX THUMB SIDEcHINGE INDEX THUMB SIDE"),
   (0x1D8DE, "cFIST INDEX THUMB SIDE THUMB DIAGONALhCONJOINEDhBENTgINDEX BENTgBOTH BENT"),
   (0x1D8E3, "gINDEX HINGEfFORWARD INDEX STRAIGHThBENTfHOOKfCURLICUEfCURVE THUMB INSIDE"),
   (0x1D8E9, "cCLAW INDEX THUMB CURVE THUMB INSIDEcFIST INDEX THUMB CURVE THUMB UNDERfCIRCLE"),
   (0x1D8EC, "cCUP INDEX THUMBeTHUMB OPENcHINGE INDEX THUMB OPENfLARGEeTHUMBeTHUMB SMALL"),
   (0x1D8F2, "cANGLE INDEX THUMB OUTfINeTHUMBcFIST THUMBdTHUMB HEELeSIDE DIAGONALfCONJOINED"),
   (0x1D8F9, "fBENTeFORWARDeBETWEEN INDEX MIDDLEfMIDDLE RINGfRING LITTLEeUNDER TWO FINGERS"),
   (0x1D8FF, "eOVER TWO FINGERSeUNDER THREE FINGERSfFOUR FINGERSeOVER FOUR RAISED KNUCKLES"),
   (0x1D903, "cFISTcFIST HEELbTOUCH SINGLEcMULTIPLEcBETWEENbGRASP SINGLEcMULTIPLEcBETWEEN"),
   (0x1D90B, "bSTRIKE SINGLEcMULTIPLEcBETWEENbBRUSH SINGLEcMULTIPLEcBETWEENbRUB SINGLE"),
   (0x1D912, "cMULTIPLEcBETWEENbSURFACE SYMBOLScBETWEENbSQUEEZE LARGE SINGLEcSMALL SINGLE"),
   (0x1D918, "cLARGE MULTIPLEcSMALL MULTIPLEcSEQUENTIALbFLICK LARGE SINGLEcSMALL SINGLE"),
   (0x1D91D, "cLARGE MULTIPLEcSMALL MULTIPLEcSEQUENTIALbSQUEEZE FLICK ALTERNATING"),
   (0x1D921, "bMOVEMENT-HINGE UP DOWN LARGEfSMALLeSEQUENTIALdDOWN SEQUENTIAL"),
   (0x1D925, "dUP DOWN ALTERNATING LARGEgSMALLdSIDE TO SIDE SCISSORS"),
   (0x1D928, "cWALLPLANE FINGER CONTACTcFLOORPLANE FINGER CONTACT"),
   (0x1D92A, "cWALLPLANE SINGLE STRAIGHT SMALLfMEDIUMfLARGEfLARGESTeWRIST FLEX"),
   (0x1D92F, "dDOUBLE STRAIGHTeWRIST FLEXeALTERNATINGeALTERNATING WRIST FLEXdCROSS"),
   (0x1D934, "dTRIPLE STRAIGHT MOVEMENTeWRIST FLEXeALTERNATINGeALTERNATING WRIST FLEX"),
   (0x1D938, "dBEND SMALLeMEDIUMeLARGEdCORNER SMALLeMEDIUMeLARGEeROTATIONdCHECK SMALLeMEDIUM"),
   (0x1D941, "eLARGEdBOX SMALLeMEDIUMeLARGEdZIGZAG SMALLeMEDIUMeLARGEdPEAKS SMALLeMEDIUM"),
   (0x1D94A, "eLARGEbTRAVEL-WALLPLANE ROTATION-WALLPLANE SINGLEfDOUBLEfALTERNATING"),
   (0x1D94E, "eFLOORPLANE SINGLEfDOUBLEfALTERNATINGdSHAKINGdARM SPIRAL SINGLEfDOUBLEfTRIPLE"),
   (0x1D955, "bMOVEMENT-DIAGONAL AWAY SMALLeMEDIUMeLARGEeLARGESTdTOWARDS SMALLeMEDIUMeLARGE"),
   (0x1D95C, "eLARGESTdBETWEEN AWAY SMALLfMEDIUMfLARGEfLARGESTeTOWARDS SMALLfMEDIUMfLARGE"),
   (0x1D964, "fLARGESTcFLOORPLANE SINGLE STRAIGHT SMALLfMEDIUMfLARGEfLARGESTeWRIST FLEX"),
   (0x1D96A, "dDOUBLE STRAIGHTeWRIST FLEXeALTERNATINGeALTERNATING WRIST FLEXdCROSS"),
   (0x1D96F, "dTRIPLE STRAIGHT MOVEMENTeWRIST FLEXeALTERNATING MOVEMENTfWRIST FLEXdBEND"),
   (0x1D974, "dCORNER SMALLeMEDIUMeLARGEdCHECKdBOX SMALLeMEDIUMeLARGEdZIGZAG SMALLeMEDIUM"),
   (0x1D97D, "eLARGEdPEAKS SMALLeMEDIUMeLARGEbTRAVEL-FLOORPLANE ROTATION-FLOORPLANE SINGLE"),
   (0x1D982, "fDOUBLEfALTERNATINGeWALLPLANE SINGLEfDOUBLEfALTERNATINGdSHAKING"),
   (0x1D988, "bMOVEMENT-WALLPLANE CURVE QUARTER SMALLfMEDIUMfLARGEfLARGESTeHALF-CIRCLE SMALL"),
   (0x1D98D, "gMEDIUMgLARGEgLARGESTeTHREE-QUARTER CIRCLE SMALLhMEDIUMdHUMP SMALLeMEDIUM"),
   (0x1D994, "eLARGEdLOOP SMALLeMEDIUMeLARGEeSMALL DOUBLEdWAVE CURVE DOUBLE SMALLgMEDIUM"),
   (0x1D99B, "gLARGEfTRIPLE SMALLgMEDIUMgLARGEdCURVE THEN STRAIGHTdCURVED CROSS SMALLfMEDIUM"),
   (0x1D9A2, "bROTATION-WALLPLANE SINGLEdDOUBLEdALTERNATEbMOVEMENT-WALLPLANE SHAKING"),
   (0x1D9A6, "dCURVE HITTING FRONT WALLdHUMP HITTING FRONT WALLdLOOP HITTING FRONT WALL"),
   (0x1D9A9, "dWAVE HITTING FRONT WALLbROTATION-WALLPLANE SINGLE HITTING FRONT WALL"),
   (0x1D9AB, "dDOUBLE HITTING FRONT WALLdALTERNATING HITTING FRONT WALL"),
   (0x1D9AD, "bMOVEMENT-WALLPLANE CURVE HITTING CHESTdHUMP HITTING CHESTdLOOP HITTING CHEST"),
   (0x1D9B0, "dWAVE HITTING CHESTbROTATION-WALLPLANE SINGLE HITTING CHEST"),
   (0x1D9B2, "dDOUBLE HITTING CHESTdALTERNATING HITTING CHEST"),
   (0x1D9B4, "bMOVEMENT-WALLPLANE WAVE DIAGONAL PATH SMALLgMEDIUMgLARGE"),
   (0x1D9B7, "cFLOORPLANE CURVE HITTING CEILING SMALLgLARGE"),
   (0x1D9B9, "dHUMP HITTING CEILING SMALL DOUBLEgLARGE DOUBLEgSMALL TRIPLEgLARGE TRIPLE"),
   (0x1D9BD, "dLOOP HITTING CEILING SMALL SINGLEgLARGE SINGLEgSMALL DOUBLEgLARGE DOUBLE"),
   (0x1D9C1, "dWAVE HITTING CEILING SMALLgLARGEbROTATION-FLOORPLANE SINGLE HITTING CEILING"),
   (0x1D9C4, "dDOUBLE HITTING CEILINGdALTERNATING HITTING CEILING"),
   (0x1D9C6, "bMOVEMENT-FLOORPLANE CURVE HITTING FLOOR SMALLgLARGE"),
   (0x1D9C8, "dHUMP HITTING FLOOR SMALL DOUBLEgLARGE DOUBLEgTRIPLE SMALL TRIPLEhLARGE TRIPLE"),
   (0x1D9CC, "dLOOP HITTING FLOOR SMALL SINGLEgLARGE SINGLEgSMALL DOUBLEgLARGE DOUBLE"),
   (0x1D9D0, "dWAVE HITTING FLOOR SMALLgLARGEbROTATION-FLOORPLANE SINGLE HITTING FLOOR"),
   (0x1D9D3, "dDOUBLE HITTING FLOORdALTERNATING HITTING FLOOR"),
   (0x1D9D5, "bMOVEMENT-FLOORPLANE CURVE SMALLeMEDIUMeLARGEeLARGESTeCOMBINEDdHUMP SMALL"),
   (0x1D9DB, "dLOOP SMALLdWAVE SNAKEeSMALLeLARGEbROTATION-FLOORPLANE SINGLEdDOUBLE"),
   (0x1D9E1, "dALTERNATINGbMOVEMENT-FLOORPLANE SHAKING PARALLEL"),
   (0x1D9E3, "cWALLPLANE ARM CIRCLE SMALL SINGLEfMEDIUM SINGLEfSMALL DOUBLEfMEDIUM DOUBLE"),
   (0x1D9E7, "cFLOORPLANE ARM CIRCLE HITTING WALL SMALL SINGLEhMEDIUM SINGLEhLARGE SINGLE"),
   (0x1D9EA, "hSMALL DOUBLEhMEDIUM DOUBLEhLARGE DOUBLEcWALLPLANE WRIST CIRCLE FRONT SINGLE"),
   (0x1D9EE, "gDOUBLEcFLOORPLANE WRIST CIRCLE HITTING WALL SINGLEhDOUBLE"),
   (0x1D9F1, "cWALLPLANE FINGER CIRCLES SINGLEfDOUBLE"),
   (0x1D9F3, "cFLOORPLANE FINGER CIRCLES HITTING WALL SINGLEhDOUBLEbDYNAMIC ARROWHEAD SMALL"),
   (0x1D9F6, "dLARGEcFASTcSLOWcTENSEcRELAXEDcSIMULTANEOUScSIMULTANEOUS ALTERNATING"),
   (0x1D9FD, "cEVERY OTHER TIMEcGRADUALbHEADbHEAD RIMcMOVEMENT-WALLPLANE STRAIGHTeTILT"),
   (0x1DA03, "dFLOORPLANE STRAIGHTdWALLPLANE CURVEdFLOORPLANE CURVEcMOVEMENT CIRCLE"),
   (0x1DA07, "bFACE DIRECTION POSITION NOSE FORWARD TILTINGfUP OR DOWNhDOWN TILTING"),
   (0x1DA0A, "bEYEBROWS STRAIGHT UPdNEUTRALdDOWNbDREAMY EYEBROWS NEUTRAL DOWNdDOWN NEUTRAL"),
   (0x1DA0F, "dUP NEUTRALdNEUTRAL UPbFOREHEAD NEUTRALcCONTACTcWRINKLEDbEYES OPENcSQUEEZED"),
   (0x1DA16, "cCLOSEDbEYE BLINK SINGLEdMULTIPLEbEYES HALF OPENcWIDE OPENcHALF CLOSED"),
   (0x1DA1C, "cWIDENING MOVEMENTbEYE WINKbEYELASHES UPcDOWNcFLUTTERING"),
   (0x1DA21, "bEYEGAZE-WALLPLANE STRAIGHTdSTRAIGHT DOUBLEeALTERNATINGcFLOORPLANE STRAIGHT"),
   (0x1DA25, "dSTRAIGHT DOUBLEeALTERNATINGcWALLPLANE CURVEDcFLOORPLANE CURVED"),
   (0x1DA29, "cWALLPLANE CIRCLINGbCHEEKS PUFFEDcNEUTRALcSUCKEDbTENSE CHEEKS HIGHdMIDDLEdLOW"),
   (0x1DA30, "bEARSbNOSE NEUTRALcCONTACTcWRINKLEScWIGGLESbAIR BLOWING OUTcSUCKING IN"),
   (0x1DA37, "cBLOW SMALL ROTATIONScSUCK SMALL ROTATIONSbBREATH INHALEcEXHALE"),
   (0x1DA3B, "bMOUTH CLOSED NEUTRALdFORWARDdCONTACTcSMILEcSMILE WRINKLEDdOPENcFROWN"),
   (0x1DA42, "cFROWN WRINKLEDdOPENcOPEN CIRCLEdFORWARDdWRINKLEDdOVALdOVAL WRINKLEDeYAWN"),
   (0x1DA4A, "dRECTANGLEdRECTANGLE WRINKLEDeYAWNcKISScKISS FORWARDdWRINKLEDcTENSE"),
   (0x1DA51, "cTENSE FORWARDdSUCKEDbLIPS PRESSED TOGETHERbLIP LOWER OVER UPPER"),
   (0x1DA55, "cUPPER OVER LOWERbMOUTH CORNERScWRINKLES SINGLEdDOUBLEbTONGUE STICKING OUT FAR"),
   (0x1DA5A, "cLICKING LIPScTIP BETWEEN LIPSdTOUCHING INSIDE MOUTHcINSIDE MOUTH RELAXED"),
   (0x1DA5E, "cMOVES AGAINST CHEEKcCENTRE STICKING OUTdINSIDE MOUTHbTEETHbTEETH MOVEMENT"),
   (0x1DA63, "cON TONGUEdTONGUE MOVEMENTdLIPSdLIPS MOVEMENTcBITE LIPSbMOVEMENT-WALLPLANE JAW"),
   (0x1DA69, "cFLOORPLANE JAWbNECKbHAIRbEXCITEMENTbSHOULDER HIP SPINEdPOSITIONS"),
   (0x1DA6F, "bWALLPLANE SHOULDER HIP MOVEbFLOORPLANE SHOULDER HIP MOVE"),
   (0x1DA71, "bSHOULDER TILTING FROM WAISTbTORSO-WALLPLANE STRAIGHT STRETCHdCURVED BEND"),
   (0x1DA74, "cFLOORPLANE TWISTINGbUPPER BODY TILTING FROM HIP JOINTSbLIMB COMBINATION"),
   (0x1DA77, "cLENGTH-1d2d3d4d5d6d7bFINGERbLOCATION-WALLPLANE SPACEcFLOORPLANE SPACE"),
   (0x1DA81, "bLOCATION HEIGHTcWIDTHcDEPTHcHEAD NECKcTORSOcLIMBS DIGITSbCOMMAbFULL STOP"),
   (0x1DA89, "bSEMICOLONbCOLONbPARENTHESIS"),
   (0x1DA9B, "bFILL MODIFIER-2d3d4d5d6"),
   (0x1DAA1, "bROTATION MODIFIER-2d3d4d5d6d7d8d9d10d11d12d13d14d15d16"),
   (0x1DF00, "aLATIN SMALL LETTER FENG DIGRAPH WITH TRILLdREVERSED SCRIPT G"),
   (0x1DF02, "bLETTER SMALL CAPITAL TURNED GbSMALL LETTER REVERSED K"),
   (0x1DF04, "bLETTER SMALL CAPITAL L WITH BELTbSMALL LETTER LEZH WITH RETROFLEX HOOK"),
   (0x1DF06, "dTURNED Y WITH BELTdREVERSED ENGdTURNED R WITH LONG LEG AND RETROFLEX HOOK"),
   (0x1DF09, "dT WITH HOOK AND RETROFLEX HOOKbLETTER RETROFLEX CLICK WITH RETROFLEX HOOK"),
   (0x1DF0B, "bSMALL LETTER ESH WITH DOUBLE BARgBAR AND CURLdTURNED T WITH CURL"),
   (0x1DF0E, "bLETTER INVERTED GLOTTAL STOP WITH CURLcSTRETCHED C WITH CURL"),
   (0x1DF10, "cSMALL CAPITAL TURNED KbSMALL LETTER L WITH FISHHOOK"),
   (0x1DF12, "dDEZH DIGRAPH WITH PALATAL HOOKdL WITH BELT AND PALATAL HOOK"),
   (0x1DF14, "dENG WITH PALATAL HOOKdTURNED R WITH PALATAL HOOK"),
   (0x1DF16, "dR WITH FISHHOOK AND PALATAL HOOKdTESH DIGRAPH WITH PALATAL HOOK"),
   (0x1DF18, "dEZH WITH PALATAL HOOKdDEZH DIGRAPH WITH RETROFLEX HOOK"),
   (0x1DF1A, "dI WITH STROKE AND RETROFLEX HOOKdO WITH RETROFLEX HOOK"),
   (0x1DF1C, "dTESH DIGRAPH WITH RETROFLEX HOOKdC WITH RETROFLEX HOOKdS WITH CURL"),
   (0x1E000, "aCOMBINING GLAGOLITIC LETTER AZUdBUKYdVEDEdGLAGOLIdDOBROdYESTUdZHIVETE"),
   (0x1E008, "dZEMLJAdIZHEdINITIAL IZHEdIdDJERVIdKAKOdLJUDIJEdMYSLITEdNASHIdONUdPOKOJIdRITSI"),
   (0x1E014, "dSLOVOdTVRIDOdUKUdFRITUdHERU"),
   (0x1E01B, "dSHTAdTSIdCHRIVIdSHAdYERUdYERIdYATI"),
   (0x1E023, "dYUdSMALL YUS"),
   (0x1E026, "dYOdIOTATED SMALL YUSdBIG YUSdIOTATED BIG YUSdFITA"),
   (0x1E100, "aNYIAKENG PUACHUE HMONG LETTER MAeTSAeNTAeTAeHAeNAeXAeNKAeCAeLAeSAeZAeNCAeNTSA"),
   (0x1E10E, "eKAeDAeNYAeNRAeVAeNTXAeTXAeFAeRAeQAeYAeNQAePAeXYAeNPAeDLAeNPLAeHAHeMLAePLAeGA"),
   (0x1E123, "eRRAeAeAAeIeUeOeOOeEeEEeW"),
   (0x1E130, "dTONE-BeMeJeVeSeGeDdSIGN FOR PERSONfTHINGfLOCATIONfANIMALfINVERTEBRATEeXW XW"),
   (0x1E13D, "dSYLLABLE LENGTHENER"),
   (0x1E140, "dDIGIT ZEROeONEeTWOeTHREEeFOUReFIVEeSIXeSEVENeEIGHTeNINE"),
   (0x1E14E, "dLOGOGRAM NYAJdCIRCLED CA"),
   (0x1E290, "aTOTO LETTER PAcBAcTAcDAcKAcGAcMAcNAcNGAcSAcCHAcYAcWAcJAcHAcRAcLAcIcBREATHY I"),
   (0x1E2A3, "cIUcBREATHY IUcUcEcBREATHY EcEOcBREATHY EOcOcAEcBREATHY AEcAbSIGN RISING TONE"),
   (0x1E2C0, "aWANCHO LETTER AAcAcBAcCAcDAcGAcYAcPHAcLAcNAcPAcTAcTHAcFAcSAcSHAcJAcZAcWAcVA"),
   (0x1E2D4, "cKAcOcAUcRAcMAcKHAcHAcEcIcNGAcUcLLHAcTSAcTRAcONGcAANGcANGcINGcONcENcAANcNYA"),
   (0x1E2EA, "cUENcYIHbTONE TUPcTUPNIcKOIcKOINIbDIGIT ZEROcONEcTWOcTHREEcFOURcFIVEcSIXcSEVEN"),
   (0x1E2F8, "cEIGHTcNINE"),
   (0x1E2FF, "bNGUN SIGN"),
   (0x1E7E0, "aETHIOPIC SYLLABLE HHYAcHHYUcHHYIcHHYAAcHHYEEcHHYEcHHYO"),
   (0x1E7E8, "cGURAGE HHWAcHHWIcHHWEEcHHWE"),
   (0x1E7ED, "cGURAGE MWIdMWEE"),
   (0x1E7F0, "dQWIdQWEEdQWEdBWIdBWEEdKWIdKWEEdKWEdGWIdGWEEdGWEdFWIdFWEEdPWIdPWEE"),
   (0x1E800, "aMENDE KIKAKUI SYLLABLE M001 KIdM002 KAdM003 KUdM065 KEEdM095 KEdM076 KOO"),
   (0x1E806, "dM048 KOdM179 KUAdM004 WIdM005 WAdM006 WUdM126 WEEdM118 WEdM114 WOOdM045 WO"),
   (0x1E80F, "dM194 WUIdM143 WEIdM061 WVIdM049 WVAdM139 WVEdM007 MINdM008 MANdM009 MUN"),
   (0x1E817, "dM059 MENdM094 MONdM154 MUANdM189 MUENdM010 BIdM011 BAdM012 BUdM150 BEE"),
   (0x1E81F, "dM097 BEdM103 BOOdM138 BOdM013 IdM014 AdM015 UdM163 EEdM100 EdM165 OOdM147 O"),
   (0x1E829, "dM137 EIdM131 INdM135 INdM195 ANdM178 ENdM019 SIdM020 SAdM021 SUdM162 SEE"),
   (0x1E832, "dM116 SEdM136 SOOdM079 SOdM196 SIAdM025 LIdM026 LAdM027 LUdM084 LEEdM073 LE"),
   (0x1E83B, "dM054 LOOdM153 LOdM110 LONG LEdM016 DIdM017 DAdM018 DUdM089 DEEdM180 DOO"),
   (0x1E843, "dM181 DOdM022 TIdM023 TAdM024 TUdM091 TEEdM055 TEdM104 TOOdM069 TOdM028 JI"),
   (0x1E84C, "dM029 JAdM030 JUdM157 JEEdM113 JEdM160 JOOdM063 JOdM175 LONG JOdM031 YI"),
   (0x1E854, "dM032 YAdM033 YUdM109 YEEdM080 YEdM141 YOOdM121 YOdM034 FIdM035 FAdM036 FU"),
   (0x1E85D, "dM078 FEEdM075 FEdM133 FOOdM088 FOdM197 FUAdM101 FANdM037 NINdM038 NAN"),
   (0x1E865, "dM039 NUNdM117 NENdM169 NONdM176 HIdM041 HAdM186 HUdM040 HEEdM096 HEdM042 HOO"),
   (0x1E86E, "dM140 HOdM083 HEEIdM128 HOOUdM053 HINdM130 HANdM087 HUNdM052 HENdM193 HON"),
   (0x1E876, "dM046 HUANdM090 NGGIdM043 NGGAdM082 NGGUdM115 NGGEEdM146 NGGEdM156 NGGOO"),
   (0x1E87D, "dM120 NGGOdM159 NGGAAdM127 NGGUAdM086 LONG NGGEdM106 LONG NGGOOdM183 LONG NGGO"),
   (0x1E883, "dM155 GIdM111 GAdM168 GUdM190 GEEdM166 GUEIdM167 GUANdM184 NGENdM057 NGON"),
   (0x1E88B, "dM177 NGUANdM068 PIdM099 PAdM050 PUdM081 PEEdM051 PEdM102 POOdM066 POdM145 MBI"),
   (0x1E894, "dM062 MBAdM122 MBUdM047 MBEEdM188 MBEEdM072 MBEdM172 MBOOdM174 MBOdM187 MBUU"),
   (0x1E89C, "dM161 LONG MBEdM105 LONG MBOOdM142 LONG MBOdM132 KPIdM092 KPAdM074 KPU"),
   (0x1E8A2, "dM044 KPEEdM108 KPEdM112 KPOOdM158 KPOdM124 GBIdM056 GBAdM148 GBUdM093 GBEE"),
   (0x1E8AA, "dM107 GBEdM071 GBOOdM070 GBOdM171 RAdM123 NDIdM129 NDAdM125 NDUdM191 NDEE"),
   (0x1E8B2, "dM119 NDEdM067 NDOOdM064 NDOdM152 NJAdM192 NJUdM149 NJEEdM134 NJOOdM182 VI"),
   (0x1E8BA, "dM185 VAdM151 VUdM173 VEEdM085 VEdM144 VOOdM077 VOdM164 NYINdM058 NYAN"),
   (0x1E8C2, "dM170 NYUNdM098 NYENdM060 NYON"),
   (0x1E8C7, "cDIGIT ONEdTWOdTHREEdFOURdFIVEdSIXdSEVENdEIGHTdNINEcCOMBINING NUMBER TEENS"),
   (0x1E8D1, "eTENSeHUNDREDSeTHOUSANDSeTEN THOUSANDSeHUNDRED THOUSANDSeMILLIONS"),
   (0x1E900, "aADLAM CAPITAL LETTER ALIFdDAALIdLAAMdMIIMdBAdSINNYIIYHEdPEdBHEdRAdEdFAdIdO"),
   (0x1E90D, "dDHAdYHEdWAWdNUNdKAFdYAdUdJIIMdCHIdHAdQAAFdGAdNYAdTUdNHAdVAdKHAdGBEdZALdKPO"),
   (0x1E921, "dSHAbSMALL LETTER ALIFdDAALIdLAAMdMIIMdBAdSINNYIIYHEdPEdBHEdRAdEdFAdIdOdDHA"),
   (0x1E930, "dYHEdWAWdNUNdKAFdYAdUdJIIMdCHIdHAdQAAFdGAdNYAdTUdNHAdVAdKHAdGBEdZALdKPOdSHA"),
   (0x1E944, "bALIF LENGTHENERbVOWEL LENGTHENERbGEMINATION MARKbHAMZAbCONSONANT MODIFIER"),
   (0x1E949, "bGEMINATE CONSONANT MODIFIERbNUKTAbNASALIZATION MARK"),
   (0x1E950, "bDIGIT ZEROcONEcTWOcTHREEcFOURcFIVEcSIXcSEVENcEIGHTcNINE"),
   (0x1E95E, "bINITIAL EXCLAMATION MARKcQUESTION MARK"),
   (0x1EC71, "aINDIC SIYAQ NUMBER ONEdTWOdTHREEdFOURdFIVEdSIXdSEVENdEIGHTdNINEdTENdTWENTY"),
   (0x1EC7C, "dTHIRTYdFORTYdFIFTYdSIXTYdSEVENTYdEIGHTYdNINETYdONE HUNDREDdTWO HUNDRED"),
   (0x1EC85, "dTHREE HUNDREDdFOUR HUNDREDdFIVE HUNDREDdSIX HUNDREDdSEVEN HUNDRED"),
   (0x1EC8A, "dEIGHT HUNDREDdNINE HUNDREDdONE THOUSANDdTWO THOUSANDdTHREE THOUSAND"),
   (0x1EC8F, "dFOUR THOUSANDdFIVE THOUSANDdSIX THOUSANDdSEVEN THOUSANDdEIGHT THOUSAND"),
   (0x1EC94, "dNINE THOUSANDdTEN THOUSANDdTWENTY THOUSANDdTHIRTY THOUSANDdFORTY THOUSAND"),
   (0x1EC99, "dFIFTY THOUSANDdSIXTY THOUSANDdSEVENTY THOUSANDdEIGHTY THOUSAND"),
   (0x1EC9D, "dNINETY THOUSANDdLAKHdLAKHANcLAKH MARKcNUMBER KARORdKARORANdPREFIXED ONEeTWO"),
   (0x1ECA5, "eTHREEeFOUReFIVEeSIXeSEVENeEIGHTeNINEcPLACEHOLDERcFRACTION ONE QUARTEReHALF"),
   (0x1ECAF, "dTHREE QUARTERScRUPEE MARKcNUMBER ALTERNATE ONEeTWOeTEN THOUSAND"),
   (0x1ECB4, "cALTERNATE LAKH MARK"),
   (0x1ED01, "aOTTOMAN SIYAQ NUMBER ONEdTWOdTHREEdFOURdFIVEdSIXdSEVENdEIGHTdNINEdTENdTWENTY"),
   (0x1ED0C, "dTHIRTYdFORTYdFIFTYdSIXTYdSEVENTYdEIGHTYdNINETYdONE HUNDREDdTWO HUNDRED"),
   (0x1ED15, "dTHREE HUNDREDdFOUR HUNDREDdFIVE HUNDREDdSIX HUNDREDdSEVEN HUNDRED"),
   (0x1ED1A, "dEIGHT HUNDREDdNINE HUNDREDdONE THOUSANDdTWO THOUSANDdTHREE THOUSAND"),
   (0x1ED1F, "dFOUR THOUSANDdFIVE THOUSANDdSIX THOUSANDdSEVEN THOUSANDdEIGHT THOUSAND"),
   (0x1ED24, "dNINE THOUSANDdTEN THOUSANDdTWENTY THOUSANDdTHIRTY THOUSANDdFORTY THOUSAND"),
   (0x1ED29, "dFIFTY THOUSANDdSIXTY THOUSANDdSEVENTY THOUSANDdEIGHTY THOUSAND"),
   (0x1ED2D, "dNINETY THOUSANDcMARRATANcALTERNATE NUMBER TWOeTHREEeFOUReFIVEeSIXeSEVENeEIGHT"),
   (0x1ED36, "eNINEeTENeFOUR HUNDREDeSIX HUNDREDeTWO THOUSANDeTEN THOUSANDcFRACTION ONE HALF"),
   (0x1ED3D, "eSIXTH"),
   (0x1EE00, "aARABIC MATHEMATICAL ALEFcBEHcJEEMcDAL"),
   (0x1EE05, "cWAWcZAINcHAHcTAHcYEHcKAFcLAMcMEEMcNOONcSEENcAINcFEHcSADcQAFcREHcSHEENcTEH"),
   (0x1EE16, "cTHEHcKHAHcTHALcDADcZAHcGHAINcDOTLESS BEHdNOONdFEHdQAF"),
   (0x1EE21, "cINITIAL BEHdJEEM"),
   (0x1EE24, "dHEH"),
   (0x1EE27, "dHAH"),
   (0x1EE29, "dYEHdKAFdLAMdMEEMdNOONdSEENdAINdFEHdSADdQAF"),
   (0x1EE34, "dSHEENdTEHdTHEHdKHAH"),
   (0x1EE39, "dDAD"),
   (0x1EE3B, "dGHAIN"),
   (0x1EE42, "cTAILED JEEM"),
   (0x1EE47, "dHAH"),
   (0x1EE49, "dYEH"),
   (0x1EE4B, "dLAM"),
   (0x1EE4D, "dNOONdSEENdAIN"),
   (0x1EE51, "dSADdQAF"),
   (0x1EE54, "dSHEEN"),
   (0x1EE57, "dKHAH"),
   (0x1EE59, "dDAD"),
   (0x1EE5B, "dGHAIN"),
   (0x1EE5D, "dDOTLESS NOON"),
   (0x1EE5F, "eQAF"),
   (0x1EE61, "cSTRETCHED BEHdJEEM"),
   (0x1EE64, "dHEH"),
   (0x1EE67, "dHAHdTAHdYEHdKAF"),
   (0x1EE6C, "dMEEMdNOONdSEENdAINdFEHdSADdQAF"),
   (0x1EE74, "dSHEENdTEHdTHEHdKHAH"),
   (0x1EE79, "dDADdZAHdGHAINdDOTLESS BEH"),
   (0x1EE7E, "eFEH"),
   (0x1EE80, "cLOOPED ALEFdBEHdJEEMdDALdHEHdWAWdZAINdHAHdTAHdYEH"),
   (0x1EE8B, "dLAMdMEEMdNOONdSEENdAINdFEHdSADdQAFdREHdSHEENdTEHdTHEHdKHAHdTHALdDADdZAHdGHAIN"),
   (0x1EEA1, "cDOUBLE-STRUCK BEHeJEEMeDAL"),
   (0x1EEA5, "eWAWeZAINeHAHeTAHeYEH"),
   (0x1EEAB, "eLAMeMEEMeNOONeSEENeAINeFEHeSADeQAFeREHeSHEENeTEHeTHEHeKHAHeTHALeDADeZAHeGHAIN"),
   (0x1EEF0, "cOPERATOR MEEM WITH HAH WITH TATWEELdHAH WITH DAL")]

end RecordAudit.Text.CharacterName
